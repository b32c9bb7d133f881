import GraphBrowser.Proofs.Json.Accepted.Token
import GraphBrowser.Proofs.Json.Document

namespace GraphBrowser.Json

def Writing.number (n : Number) : Writing where
  Has depth text := depth = 0 ∧ ∃ spelling, Spelled text spelling ∧ spelling.number? = some n
  begins := by
    rintro _ _ ⟨_, spelling, h, _⟩
    exact begins_number h.number

mutual

/-- The ways to write a value without a change to its members. -/
def Value.verbatim : Value → Writing
  | .null => .null
  | .bool b => .bool b
  | .number n => .number n
  | .string s => .string s
  | .array xs => .list (verbatimItems xs)
  | .object ms => .object (verbatimMembers ms)

def verbatimItems : List Value → List Writing
  | [] => []
  | x :: xs => x.verbatim :: verbatimItems xs

def verbatimMembers : List (String × Value) → List Writing
  | [] => []
  | (key, v) :: ms => .member key v.verbatim :: verbatimMembers ms

end

mutual

/-- What is read of a value: in each of its objects, the members in ascending order of keys, of equal
keys the last one. -/
def Value.sorted : Value → Value
  | .null => .null
  | .bool b => .bool b
  | .number n => .number n
  | .string s => .string s
  | .array xs => .array (sortedItems xs)
  | .object ms => .object (sortMembers (sortedMembers ms))

def sortedItems : List Value → List Value
  | [] => []
  | x :: xs => x.sorted :: sortedItems xs

def sortedMembers : List (String × Value) → List (String × Value)
  | [] => []
  | (key, v) :: ms => (key, v.sorted) :: sortedMembers ms

end

theorem verbatimItems_eq (xs : List Value) : verbatimItems xs = xs.map Value.verbatim := by
  induction xs with
  | nil => rfl
  | cons x xs ih => rw [verbatimItems, ih, List.map_cons]

theorem verbatimMembers_eq (ms : List (String × Value)) :
    verbatimMembers ms = ms.map fun m => .member m.1 m.2.verbatim := by
  induction ms with
  | nil => rfl
  | cons m ms ih => rw [verbatimMembers, ih, List.map_cons]

theorem sortedItems_eq (xs : List Value) : sortedItems xs = xs.map Value.sorted := by
  induction xs with
  | nil => rfl
  | cons x xs ih => rw [sortedItems, ih, List.map_cons]

theorem sortedMembers_eq (ms : List (String × Value)) :
    sortedMembers ms = ms.map fun m => (m.1, m.2.sorted) := by
  induction ms with
  | nil => rfl
  | cons m ms ih => rw [sortedMembers, ih, List.map_cons]

theorem readNumber_spelled {x rest : List Char} {spelling : Spelling} {n : Number}
    (h : Spelled x spelling) (hn : spelling.number? = some n) (hr : Ended rest) :
    readNumber (x ++ rest) = .ok (n, rest) := by
  unfold readNumber
  rw [readSpelling_text h hr]
  simp only [bind, Except.bind, hn, pure, Except.pure]

theorem reads_number (levels : Nat) (n : Number) :
    Reads levels (readValue levels) (.number n) (.number n) := by
  rintro _ x ⟨rfl, spelling, hx, hn⟩ w rest hw hr
  have hread := readNumber_spelled hx hn hr
  obtain ⟨c, cs, rfl, hc⟩ := number_head hx.number
  obtain ⟨hspace, hne⟩ := number_char hc
  rw [List.cons_append] at hread ⊢
  rw [readValue_scalar hspace (fun h => hne (by simp [h])) (fun h => hne (by simp [h])) levels hw,
    readScalar_number hc, hread, within_zero]
  rfl

mutual

theorem reads_verbatim : (v : Value) → ∀ levels, Reads levels (readValue levels) v.verbatim v.sorted
  | .null => reads_null
  | .bool b => fun levels => reads_boolValue levels b
  | .number n => fun levels => reads_number levels n
  | .string s => fun levels => reads_stringValue levels s
  | .array xs => fun _ => reads_array (reads_verbatimItems xs)
  | .object ms => fun
    | 0 => reads_object_none _ _
    | levels + 1 => reads_object_sorted (reads_verbatimMembers ms levels)

theorem reads_verbatimItems : (xs : List Value) → ∀ levels,
    List.Forall₂ (Reads levels (readValue levels)) (verbatimItems xs) (sortedItems xs)
  | [] => fun _ => .nil
  | x :: xs => fun levels => .cons (reads_verbatim x levels) (reads_verbatimItems xs levels)

theorem reads_verbatimMembers : (ms : List (String × Value)) → ∀ levels,
    List.Forall₂ (ReadsMember levels (readValue levels)) (verbatimMembers ms) (sortedMembers ms)
  | [] => fun _ => .nil
  | (_, v) :: ms => fun levels =>
    .cons ⟨v.verbatim, rfl, reads_verbatim v levels⟩ (reads_verbatimMembers ms levels)

end

end GraphBrowser.Json
