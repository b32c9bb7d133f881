import GraphBrowser.Proofs.Json.Verbatim
import GraphBrowser.Proofs.Text.Bytes

namespace GraphBrowser.Json

def lastValue? (key : String) (ms : List (String × Value)) : Option Value :=
  (ms.reverse.find? fun m => m.1 == key).map Prod.snd

theorem lastValue?_append (key : String) (ms : List (String × Value)) (m : String × Value) :
    lastValue? key (ms ++ [m]) = if m.1 = key then some m.2 else lastValue? key ms := by
  by_cases h : m.1 = key <;> simp [lastValue?, h]

theorem lastValue?_sortedMembers (key : String) (ms : List (String × Value)) :
    lastValue? key (sortedMembers ms) = (lastValue? key ms).map Value.sorted := by
  rw [sortedMembers_eq]
  induction ms using List.reverseRecOn with
  | nil => rfl
  | append_singleton ms m ih =>
    rw [List.map_append, List.map_singleton, lastValue?_append, lastValue?_append, ih]
    by_cases h : m.1 = key <;> simp [h]

theorem get?_insertMember (key k : String) (v : Value) (ms : List (String × Value)) :
    Value.get? key (.object (insertMember k v ms)) =
      if k = key then some v else Value.get? key (.object ms) := by
  unfold Value.get?
  fun_induction insertMember k v ms with
  | case1 => by_cases h : k = key <;> simp [h]
  | case2 => by_cases h : k = key <;> simp [h]
  | case3 => by_cases h : k = key <;> simp [h]
  | case4 k' v' ms _ hne ih =>
    by_cases hk : k' = key
    · have h : k ≠ key := fun he => hne (he.trans hk.symm)
      simp [hk, h]
    · simpa [hk] using ih

theorem get?_sortMembers (key : String) (ms : List (String × Value)) :
    Value.get? key (.object (sortMembers ms)) = lastValue? key ms := by
  induction ms using List.reverseRecOn with
  | nil => rfl
  | append_singleton ms m ih =>
    rw [sortMembers_append, get?_insertMember, lastValue?_append, ih]

def ByteOrdered (ms : List (String × Value)) : Prop :=
  ms.Pairwise fun m m' => Text.utf8Bytes m.1.toList < Text.utf8Bytes m'.1.toList

theorem Ascending.byteOrdered {ms : List (String × Value)} (h : Ascending ms) : ByteOrdered ms :=
  h.imp Text.utf8Bytes_toList_lt

theorem sorted_object (ms : List (String × Value)) : ∃ sorted,
    (Value.object ms).sorted = .object sorted ∧ ByteOrdered sorted ∧
      ∀ key, Value.get? key (.object sorted) = (lastValue? key ms).map Value.sorted := by
  refine ⟨sortMembers (sortedMembers ms), rfl, (ascending_sortMembers _).byteOrdered, fun key => ?_⟩
  rw [get?_sortMembers, lastValue?_sortedMembers]

/-- The second value is the first one with the members of objects in another order, at any depth. A
member that is moved is the only one of its key. -/
inductive Rearranged : Value → Value → Prop
  | refl (v : Value) : Rearranged v v
  | trans {u v w : Value} : Rearranged u v → Rearranged v w → Rearranged u w
  | item {before after : List Value} {v w : Value} : Rearranged v w →
    Rearranged (.array (before ++ v :: after)) (.array (before ++ w :: after))
  | member {before after : List (String × Value)} {key : String} {v w : Value} : Rearranged v w →
    Rearranged (.object (before ++ (key, v) :: after)) (.object (before ++ (key, w) :: after))
  | members {ms ms' : List (String × Value)} : (ms.map Prod.fst).Nodup → ms.Perm ms' →
    Rearranged (.object ms) (.object ms')

theorem sortedMembers_replaced {v w : Value} (h : v.sorted = w.sorted)
    (before : List (String × Value)) (key : String) (after : List (String × Value)) :
    sortedMembers (before ++ (key, v) :: after) = sortedMembers (before ++ (key, w) :: after) := by
  simp only [sortedMembers_eq, List.map_append, List.map_cons, h]

theorem map_fst_sortedMembers (ms : List (String × Value)) :
    (sortedMembers ms).map Prod.fst = ms.map Prod.fst := by
  simp [sortedMembers_eq]

theorem sortMembers_congr {ms ms' : List (String × Value)} (h : (ms.map Prod.fst).Nodup)
    (hp : ms.Perm ms') : sortMembers ms = sortMembers ms' := by
  have hms : ms.Perm (sortMembers ms') :=
    hp.trans (sortMembers_perm_self ((hp.map Prod.fst).nodup_iff.mp h)).symm
  exact sortMembers_perm (ascending_sortMembers ms') hms

theorem Rearranged.sorted_eq {v w : Value} (h : Rearranged v w) : v.sorted = w.sorted := by
  induction h with
  | refl => rfl
  | trans _ _ ih₁ ih₂ => exact ih₁.trans ih₂
  | item _ ih => simp only [Value.sorted, sortedItems_eq, List.map_append, List.map_cons, ih]
  | @member before after key _ _ _ ih =>
    rw [Value.sorted, Value.sorted, sortedMembers_replaced ih before key after]
  | @members ms ms' hn hp =>
    have hsorted : (sortedMembers ms).Perm (sortedMembers ms') := by
      rw [sortedMembers_eq, sortedMembers_eq]
      exact hp.map _
    rw [← map_fst_sortedMembers] at hn
    rw [Value.sorted, Value.sorted, sortMembers_congr hn hsorted]

end GraphBrowser.Json
