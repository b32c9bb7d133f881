import GraphBrowser.Text.Basic
import Mathlib.Data.List.Basic
import Mathlib.Data.List.DropRight
import Mathlib.Data.List.TakeWhile

namespace GraphBrowser.Text

theorem pieces_plain {sep : Char} {p : List Char} (h : sep ∉ p) : pieces sep p = [p] := by
  induction p with
  | nil => rfl
  | cons c p ih =>
    rw [List.mem_cons, not_or] at h
    rw [pieces, if_neg (Ne.symm h.1), ih h.2]

theorem pieces_append {sep : Char} {p : List Char} (h : sep ∉ p) (rest : List Char) :
    pieces sep (p ++ sep :: rest) = p :: pieces sep rest := by
  induction p with
  | nil => simp [pieces]
  | cons c p ih =>
    rw [List.mem_cons, not_or] at h
    rw [List.cons_append, pieces, if_neg (Ne.symm h.1), ih h.2]

theorem pieces_intercalate {sep : Char} {ps : List (List Char)} (hne : ps ≠ [])
    (h : ∀ p ∈ ps, sep ∉ p) : pieces sep ([sep].intercalate ps) = ps := by
  induction ps with
  | nil => exact absurd rfl hne
  | cons p ps ih =>
    rw [List.forall_mem_cons] at h
    cases ps with
    | nil => simpa using pieces_plain h.1
    | cons q ps =>
      rw [List.intercalate_cons_cons, List.append_assoc, List.singleton_append, pieces_append h.1,
        ih (by simp) h.2]

theorem not_mem_intercalate {c : Char} {sep : List Char} (hsep : c ∉ sep) {ps : List (List Char)}
    (h : ∀ p ∈ ps, c ∉ p) : c ∉ sep.intercalate ps := by
  induction ps with
  | nil => exact List.not_mem_nil
  | cons p ps ih =>
    rw [List.forall_mem_cons] at h
    cases ps with
    | nil => simpa using h.1
    | cons q ps =>
      rw [List.intercalate_cons_cons, List.mem_append, List.mem_append, not_or, not_or]
      exact ⟨⟨h.1, hsep⟩, ih h.2⟩

theorem intercalate_ne_nil (sep : List Char) {p : List Char} (hp : p ≠ []) (ps : List (List Char)) :
    sep.intercalate (p :: ps) ≠ [] := by
  cases ps with
  | nil => simpa using hp
  | cons q ps =>
    rw [List.intercalate_cons_cons, List.append_assoc]
    exact List.append_ne_nil_of_left_ne_nil hp _

theorem intercalate_inj {sep : Char} {ps qs : List (List Char)} (hps : ∀ p ∈ ps, p ≠ [] ∧ sep ∉ p)
    (hqs : ∀ q ∈ qs, q ≠ [] ∧ sep ∉ q) (h : [sep].intercalate ps = [sep].intercalate qs) :
    ps = qs := by
  cases ps with
  | nil =>
    cases qs with
    | nil => rfl
    | cons q qs => exact absurd h.symm (intercalate_ne_nil _ (hqs q List.mem_cons_self).1 qs)
  | cons p ps =>
    cases qs with
    | nil => exact absurd h (intercalate_ne_nil _ (hps p List.mem_cons_self).1 ps)
    | cons q qs =>
      have hpieces := congrArg (pieces sep) h
      rwa [pieces_intercalate (List.cons_ne_nil _ _) fun p hp => (hps p hp).2,
        pieces_intercalate (List.cons_ne_nil _ _) fun q hq => (hqs q hq).2] at hpieces

theorem pieces_ne_nil (sep : Char) (cs : List Char) : pieces sep cs ≠ [] := by
  cases cs with
  | nil => exact List.cons_ne_nil _ _
  | cons c cs =>
    rw [pieces]
    split
    · exact List.cons_ne_nil _ _
    · split <;> exact List.cons_ne_nil _ _

theorem pieces_concat {sep : Char} {p : List Char} (h : sep ∉ p) (cs : List Char) :
    pieces sep (cs ++ sep :: p) = pieces sep cs ++ [p] := by
  induction cs with
  | nil => simp [pieces, pieces_plain h]
  | cons c cs ih =>
    obtain ⟨q, qs, hqs⟩ := List.exists_cons_of_ne_nil (pieces_ne_nil sep cs)
    rw [List.cons_append, pieces, pieces, ih, hqs]
    split <;> rfl

theorem cut_append {sep : Char} {p : List Char} (h : sep ∉ p) (rest : List Char) :
    cut sep (p ++ sep :: rest) = (p, rest) := by
  induction p with
  | nil => simp [cut]
  | cons c p ih =>
    rw [List.mem_cons, not_or] at h
    rw [List.cons_append, cut, if_neg (Ne.symm h.1), ih h.2]

theorem cut_plain {sep : Char} {p : List Char} (h : sep ∉ p) : cut sep p = (p, []) := by
  induction p with
  | nil => rfl
  | cons c p ih =>
    rw [List.mem_cons, not_or] at h
    rw [cut, if_neg (Ne.symm h.1), ih h.2]

theorem afterLast_subset (sep : Char) (cs : List Char) : afterLast sep cs ⊆ cs := fun _ hc =>
  List.mem_reverse.mp ((List.takeWhile_sublist _).subset (List.mem_reverse.mp hc))

theorem ofDigits_toDigits (n : Nat) : ofDigits? 10 (Nat.toDigits 10 n) = some n := by
  have hdigit : ∀ d < 10, digitValue? (Nat.digitChar d) = some d := by decide
  induction n using Nat.strongRecOn with
  | ind n ih =>
    rw [Nat.toDigits_eq_if (by decide)]
    split
    · rename_i hn
      simp [ofDigits?, hdigit n hn, hn]
    · have hq := ih (n / 10) (by omega)
      have hr : n % 10 < 10 := by omega
      have hn : n / 10 * 10 + n % 10 = n := by omega
      rw [ofDigits?, List.foldlM_append]
      rw [ofDigits?] at hq
      rw [hq]
      simp [hdigit _ hr, hr, hn]

theorem not_mem_toString {c : Char} (h : c.isDigit = false) (n : Nat) : c ∉ (toString n).toList := by
  intro hmem
  rw [Nat.toString_eq_repr, Nat.toList_repr] at hmem
  rw [Nat.isDigit_of_mem_toDigits (by decide) (by decide) hmem] at h
  cases h

theorem eq_of_toString {m n : Nat} (h : toString m = toString n) : m = n := by
  have hdigits := congrArg String.toList h
  rw [Nat.toString_eq_repr, Nat.toString_eq_repr, Nat.toList_repr, Nat.toList_repr] at hdigits
  have hread := ofDigits_toDigits m
  rw [hdigits, ofDigits_toDigits] at hread
  exact (Option.some.inj hread).symm

theorem takeWhile_rest {p : Char → Bool} {rest : List Char} (h : ∀ c ∈ rest.head?, p c = false)
    (cs : List Char) : (cs ++ rest).takeWhile p = cs.takeWhile p := by
  induction cs with
  | nil =>
    cases rest with
    | nil => rfl
    | cons c rest => simp [h c rfl]
  | cons c cs ih => rw [List.cons_append, List.takeWhile_cons, List.takeWhile_cons, ih]

theorem dropWhile_rest {p : Char → Bool} {rest : List Char} (h : ∀ c ∈ rest.head?, p c = false)
    (cs : List Char) : (cs ++ rest).dropWhile p = cs.dropWhile p ++ rest := by
  induction cs with
  | nil =>
    cases rest with
    | nil => rfl
    | cons c rest => simp [h c rfl]
  | cons c cs ih =>
    rw [List.cons_append, List.dropWhile_cons, List.dropWhile_cons, ih]
    split <;> rfl

theorem exists_dropWhile (p : Char → Bool) (cs : List Char) : ∃ front back, cs = front ++ back ∧
    (∀ c ∈ front, p c = true) ∧ ∀ c ∈ back.head?, p c = false := by
  refine ⟨cs.takeWhile p, cs.dropWhile p, List.takeWhile_append_dropWhile.symm,
    fun c hc => List.mem_takeWhile_imp hc, ?_⟩
  intro c hc
  have hhead := List.head?_dropWhile_not p cs
  rw [hc] at hhead
  exact hhead

theorem exists_rdropWhile (p : Char → Bool) (cs : List Char) : ∃ front back, cs = front ++ back ∧
    (∀ c ∈ front.getLast?, p c = false) ∧ ∀ c ∈ back, p c = true := by
  obtain ⟨front, back, hcs, hfront, hback⟩ := exists_dropWhile p cs.reverse
  refine ⟨back.reverse, front.reverse, ?_, ?_, fun c hc => hfront c (List.mem_reverse.mp hc)⟩
  · rw [← List.reverse_append, ← hcs, List.reverse_reverse]
  · rwa [List.getLast?_reverse]

variable {p : Char → Bool} {front back : List Char}

theorem dropWhile_front (hfront : ∀ c ∈ front, p c = true) (hback : ∀ c ∈ back.head?, p c = false) :
    (front ++ back).dropWhile p = back := by
  rw [dropWhile_rest hback, List.dropWhile_eq_nil_iff.mpr hfront, List.nil_append]

theorem rdropWhile_back (hfront : ∀ c ∈ front.getLast?, p c = false)
    (hback : ∀ c ∈ back, p c = true) : (front ++ back).rdropWhile p = front := by
  rw [List.rdropWhile, List.reverse_append, dropWhile_front, List.reverse_reverse]
  · exact fun c hc => hback c (List.mem_reverse.mp hc)
  · rwa [List.head?_reverse]

theorem rdropWhile_self {cs : List Char} (h : ∀ c ∈ cs.getLast?, p c = false) :
    cs.rdropWhile p = cs := by
  have hcs := @rdropWhile_back p cs [] h nofun
  rwa [List.append_nil] at hcs

def Trimmed (text s : String) : Prop :=
  ∃ front back, text.toList = front ++ (s.toList ++ back) ∧ (∀ c ∈ front, isBlank c = true) ∧
    (∀ c ∈ back, isBlank c = true) ∧ (∀ c ∈ s.toList.head?, isBlank c = false) ∧
    ∀ c ∈ s.toList.getLast?, isBlank c = false

theorem toList_trim (text : String) :
    (trim text).toList = (text.toList.dropWhile isBlank).rdropWhile isBlank := by
  simp only [trim, trimEnd, String.toList_ofList]
  rfl

theorem trimmed_trim (text : String) : Trimmed text (trim text) := by
  obtain ⟨front, rest, htext, hfront, hhead⟩ := exists_dropWhile isBlank text.toList
  obtain ⟨core, back, rfl, hlast, hback⟩ := exists_rdropWhile isBlank rest
  have hcore : (trim text).toList = core := by
    rw [toList_trim, htext, dropWhile_front hfront hhead, rdropWhile_back hlast hback]
  refine ⟨front, back, by rw [htext, hcore], hfront, hback, ?_, by rwa [hcore]⟩
  intro c hc
  rw [hcore] at hc
  exact hhead c (by rw [List.head?_append, Option.mem_def.mp hc]; rfl)

end GraphBrowser.Text
