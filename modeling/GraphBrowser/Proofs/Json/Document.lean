import GraphBrowser.Proofs.Json.Reading
import Mathlib.Data.List.Induction
import Mathlib.Data.List.Perm.Basic
import Mathlib.Data.String.Basic

namespace GraphBrowser.Json

def Ascending (ms : List (String × Value)) : Prop := ms.Pairwise fun m m' => m.1 < m'.1

theorem insertMember_perm {key : String} {value : Value} {ms : List (String × Value)}
    (h : ∀ m ∈ ms, m.1 ≠ key) : (insertMember key value ms).Perm ((key, value) :: ms) := by
  induction ms with
  | nil => exact .refl _
  | cons m ms ih =>
    obtain ⟨k, v⟩ := m
    have hk : k ≠ key := h (k, v) (by simp)
    have hms := ih fun m hm => h m (by simp [hm])
    unfold insertMember
    split
    · exact .refl _
    · rw [if_neg (Ne.symm hk)]
      exact (hms.cons (k, v)).trans (.swap _ _ _)

theorem mem_insertMember {key : String} {value : Value} {ms : List (String × Value)}
    {m : String × Value} (h : m ∈ insertMember key value ms) : m = (key, value) ∨ m ∈ ms := by
  fun_induction insertMember key value ms with
  | case1 => exact .inl (List.mem_singleton.mp h)
  | case2 => exact List.mem_cons.mp h
  | case3 v ms => exact (List.mem_cons.mp h).imp_right (List.mem_cons_of_mem _)
  | case4 k v ms _ _ ih =>
    rcases List.mem_cons.mp h with rfl | h
    · exact .inr List.mem_cons_self
    · exact (ih h).imp_right (List.mem_cons_of_mem _)

theorem ascending_insertMember {ms : List (String × Value)} (key : String) (value : Value)
    (h : Ascending ms) : Ascending (insertMember key value ms) := by
  fun_induction insertMember key value ms with
  | case1 => exact List.pairwise_singleton _ _
  | case2 k v ms hlt =>
    refine List.pairwise_cons.mpr ⟨?_, h⟩
    intro m hm
    rcases List.mem_cons.mp hm with rfl | hm
    · exact hlt
    · exact lt_trans hlt ((List.pairwise_cons.mp h).1 m hm)
  | case3 v ms => exact List.pairwise_cons.mpr (List.pairwise_cons.mp h)
  | case4 k v ms hnot hne ih =>
    obtain ⟨hlt, hasc⟩ := List.pairwise_cons.mp h
    refine List.pairwise_cons.mpr ⟨?_, ih hasc⟩
    intro m hm
    rcases mem_insertMember hm with rfl | hm
    · exact lt_of_le_of_ne (not_lt.mp hnot) (Ne.symm hne)
    · exact hlt m hm

theorem sortMembers_append (ms : List (String × Value)) (key : String) (value : Value) :
    sortMembers (ms ++ [(key, value)]) = insertMember key value (sortMembers ms) := by
  simp [sortMembers]

theorem ascending_sortMembers (ms : List (String × Value)) : Ascending (sortMembers ms) := by
  induction ms using List.reverseRecOn with
  | nil => exact .nil
  | append_singleton ms m ih =>
    rw [sortMembers_append]
    exact ascending_insertMember m.1 m.2 ih

theorem mem_of_mem_sortMembers {ms : List (String × Value)} {m : String × Value}
    (h : m ∈ sortMembers ms) : m ∈ ms := by
  induction ms using List.reverseRecOn with
  | nil => exact h
  | append_singleton ms m' ih =>
    rw [sortMembers_append] at h
    rcases mem_insertMember h with rfl | h
    · exact List.mem_append_right ms (List.mem_singleton_self _)
    · exact List.mem_append_left _ (ih h)

theorem sortMembers_perm_self {ms : List (String × Value)} (h : (ms.map Prod.fst).Nodup) :
    (sortMembers ms).Perm ms := by
  induction ms using List.reverseRecOn with
  | nil => exact .refl _
  | append_singleton ms m ih =>
    obtain ⟨key, value⟩ := m
    rw [List.map_append, List.nodup_append] at h
    obtain ⟨hnodup, _, hdisj⟩ := h
    have hne : ∀ m ∈ sortMembers ms, m.1 ≠ key := fun m hm =>
      hdisj m.1 (List.mem_map_of_mem (mem_of_mem_sortMembers hm)) key (by simp)
    rw [sortMembers_append]
    exact (insertMember_perm hne).trans
      (((ih hnodup).cons _).trans (List.perm_append_singleton _ _).symm)

theorem sortMembers_perm {ms ms' : List (String × Value)} (h : Ascending ms) (hp : ms'.Perm ms) :
    sortMembers ms' = ms := by
  have hnodup : (ms.map Prod.fst).Nodup :=
    List.pairwise_map.mpr (h.imp fun hlt => ne_of_lt hlt)
  have hperm := sortMembers_perm_self ((hp.map Prod.fst).nodup_iff.mpr hnodup)
  refine (hperm.trans hp).eq_of_pairwise ?_ (ascending_sortMembers ms') h
  intro a b _ _ hab hba
  exact absurd hab (lt_asymm hba)

mutual

/-- Numbers are integers of 64 bits, and the members of objects stand in ascending order. -/
def Value.Exact : Value → Prop
  | .number (.int n) => -2 ^ 63 ≤ n ∧ n < 2 ^ 64
  | .number (.float _) => False
  | .array xs => ExactItems xs
  | .object ms => Ascending ms ∧ ExactMembers ms
  | .null | .bool _ | .string _ => True

def ExactItems : List Value → Prop
  | [] => True
  | x :: xs => x.Exact ∧ ExactItems xs

def ExactMembers : List (String × Value) → Prop
  | [] => True
  | (_, v) :: ms => v.Exact ∧ ExactMembers ms

end

theorem readValue_scalar {c : Char} (hs : isSpace c = false) (hl : c ≠ '[') (ho : c ≠ '\x7b')
    (levels : Nat) {w : List Char} (hw : Blank w) (cs : List Char) :
    readValue levels (w ++ c :: cs) = readScalar (c :: cs) := by
  unfold readValue
  rw [skipSpace_blank_cons hw hs]
  split
  · rename_i h
    exact absurd (List.cons.inj h).1 hl
  · rename_i h
    exact absurd (List.cons.inj h).1 ho
  · rfl

theorem reads_null (levels : Nat) : Reads levels (readValue levels) .null .null := by
  rintro _ _ ⟨rfl, rfl⟩ w rest hw _
  simp only [List.cons_append]
  rw [readValue_scalar (by decide) (by decide) (by decide) levels hw, within_zero]
  rfl

theorem reads_boolValue (levels : Nat) (b : Bool) :
    Reads levels (readValue levels) (.bool b) (.bool b) := by
  cases b with
  | true | false =>
    rintro _ _ ⟨rfl, rfl⟩ w rest hw _
    simp only [List.cons_append]
    rw [readValue_scalar (by decide) (by decide) (by decide) levels hw, within_zero]
    rfl

theorem reads_int (levels : Nat) {n : Int} (hlow : -2 ^ 63 ≤ n) (hhigh : n < 2 ^ 64) :
    Reads levels (readValue levels) (.int n) (.number (.int n)) := by
  rintro _ _ ⟨rfl, rfl⟩ w rest hw hr
  have hs := readScalar_intText hlow hhigh hr
  obtain ⟨c, cs, ht, hc⟩ := number_head (numberText_int n)
  obtain ⟨hspace, hne⟩ := number_char hc
  rw [ht, List.cons_append] at hs ⊢
  rw [readValue_scalar hspace (fun h => hne (by simp [h])) (fun h => hne (by simp [h])) levels hw,
    hs, within_zero]

theorem reads_stringValue (levels : Nat) (s : String) :
    Reads levels (readValue levels) (.string s) (.string s) := by
  rintro _ _ ⟨rfl, body, hb, rfl⟩ w rest hw _
  rw [List.cons_append, readValue_scalar (by decide) (by decide) (by decide) levels hw, within_zero]
  change (readString (body ++ rest)).map _ = _
  rw [readString_text hb]
  rfl

theorem reads_array {levels : Nat} {ts : List Writing} {xs : List Value}
    (h : ∀ levels, List.Forall₂ (Reads levels (readValue levels)) ts xs) :
    Reads levels (readValue levels) (.list ts) (.array xs) := by
  rintro _ _ ⟨d, body, hrow, rfl, rfl⟩ w rest hw _
  cases levels with
  | zero =>
    unfold readValue
    rw [List.cons_append, skipSpace_blank_cons hw (by decide)]
    rfl
  | succ levels =>
    unfold readValue
    rw [List.cons_append, skipSpace_blank_cons hw (by decide), within_succ]
    change (items (readValue levels) (body ++ rest)).map _ = _
    rw [items_row (h levels) hrow rest]
    exact within_map levels d _ _

theorem reads_object_none (ts : List Writing) (v : Value) :
    Reads 0 (readValue 0) (.object ts) v := by
  rintro _ _ ⟨d, body, _, rfl, rfl⟩ w rest hw _
  unfold readValue
  rw [List.cons_append, skipSpace_blank_cons hw (by decide)]
  rfl

theorem reads_object_sorted {levels : Nat} {ts : List Writing} {ms : List (String × Value)}
    (h : List.Forall₂ (ReadsMember levels (readValue levels)) ts ms) :
    Reads (levels + 1) (readValue (levels + 1)) (.object ts) (.object (sortMembers ms)) := by
  rintro _ _ ⟨d, body, hrow, rfl, rfl⟩ w rest hw _
  unfold readValue
  rw [List.cons_append, skipSpace_blank_cons hw (by decide), within_succ]
  change (members (readValue levels) (body ++ rest)).map _ = _
  rw [members_row h hrow rest]
  exact within_map levels d _ _

theorem reads_object {levels : Nat} {ts : List Writing} {ms : List (String × Value)}
    (hms : Ascending ms)
    (h : ∀ levels, List.Forall₂ (ReadsMember levels (readValue levels)) ts ms) :
    Reads levels (readValue levels) (.objectInAnyOrder ts) (.object ms) := by
  rintro depth cs ⟨ts', hts, hcs⟩
  cases levels with
  | zero => exact reads_object_none ts' _ hcs
  | succ levels =>
    obtain ⟨ms', hread, hperm⟩ := List.perm_comp_forall₂ hts (h levels)
    rw [← sortMembers_perm hms hperm]
    exact reads_object_sorted hread hcs

mutual

theorem reads_value : (v : Value) → v.Exact → ∀ levels, Reads levels (readValue levels) v.writing v
  | .null, _ => reads_null
  | .bool b, _ => fun levels => reads_boolValue levels b
  | .number (.int _), h => fun levels => reads_int levels h.1 h.2
  | .number (.float _), h => h.elim
  | .string s, _ => fun levels => reads_stringValue levels s
  | .array xs, h => fun _ => reads_array (reads_items xs h)
  | .object ms, h => fun _ => reads_object h.1 (reads_members ms h.2)

theorem reads_items : (xs : List Value) → ExactItems xs → ∀ levels,
    List.Forall₂ (Reads levels (readValue levels)) (itemWritings xs) xs
  | [], _ => fun _ => .nil
  | x :: xs, h => fun levels => .cons (reads_value x h.1 levels) (reads_items xs h.2 levels)

theorem reads_members : (ms : List (String × Value)) → ExactMembers ms → ∀ levels,
    List.Forall₂ (ReadsMember levels (readValue levels)) (memberWritings ms) ms
  | [], _ => fun _ => .nil
  | (_, v) :: ms, h => fun levels =>
    .cons ⟨v.writing, rfl, reads_value v h.1 levels⟩ (reads_members ms h.2 levels)

end

end GraphBrowser.Json
