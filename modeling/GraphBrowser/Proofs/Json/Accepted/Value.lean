import GraphBrowser.Proofs.Json.Accepted.Items
import GraphBrowser.Proofs.Json.Compact

namespace GraphBrowser.Json

variable {α : Type} {cs rest : List Char}

inductive Value.WithoutFloats : Value → Prop
  | null : WithoutFloats .null
  | bool {b : Bool} : WithoutFloats (.bool b)
  | int {n : Int} : WithoutFloats (.number (.int n))
  | string {s : String} : WithoutFloats (.string s)
  | array {xs : List Value} : (∀ x ∈ xs, x.WithoutFloats) → WithoutFloats (.array xs)
  | object {ms : List (String × Value)} : (∀ m ∈ ms, m.2.WithoutFloats) → WithoutFloats (.object ms)

/-- What is written as a JSON value is nested no deeper than `d` brackets, and is exact up to binary
numbers. -/
structure Fits (value : α → Value) (WithoutFloats Exact : α → Prop) (d : Nat) (x : α) : Prop where
  nesting_le : (value x).nesting ≤ d
  exact : WithoutFloats x → Exact x

theorem Fits.mono {value : α → Value} {WithoutFloats Exact : α → Prop} {d : Nat} {x : α}
    (h : Fits value WithoutFloats Exact d x) : Fits value WithoutFloats Exact (d + 1) x :=
  ⟨Nat.le_succ_of_le h.nesting_le, h.exact⟩

abbrev Value.Fits : Nat → Value → Prop := Json.Fits id Value.WithoutFloats Value.Exact

abbrev FitsAll (value : α → Value) (WithoutFloats Exact : α → Prop) : Nat → List α → Prop :=
  Fits (fun xs => .array (xs.map value)) (fun xs => ∀ x ∈ xs, WithoutFloats x)
    (fun xs => ∀ x ∈ xs, Exact x)

theorem fitsAll {value : α → Value} {WithoutFloats Exact : α → Prop} {d : Nat} {xs : List α}
    (h : ∀ x ∈ xs, Fits value WithoutFloats Exact d x) :
    FitsAll value WithoutFloats Exact (d + 1) xs where
  nesting_le := by
    apply Nat.succ_le_succ
    apply itemsNesting_le
    intro v hv
    obtain ⟨x, hx, rfl⟩ := List.mem_map.mp hv
    exact (h x hx).nesting_le
  exact hf x hx := (h x hx).exact (hf x hx)

theorem fitsAll_nil {value : α → Value} {WithoutFloats Exact : α → Prop} (d : Nat) :
    FitsAll value WithoutFloats Exact (d + 1) [] :=
  fitsAll fun _ hx => absurd hx List.not_mem_nil

theorem exactItems {xs : List Value} (h : ∀ x ∈ xs, x.Exact) : ExactItems xs := by
  induction xs with
  | nil => trivial
  | cons x xs ih =>
    rw [List.forall_mem_cons] at h
    exact ⟨h.1, ih h.2⟩

theorem exactMembers {ms : List (String × Value)} (h : ∀ m ∈ ms, m.2.Exact) : ExactMembers ms := by
  induction ms with
  | nil => trivial
  | cons m ms ih =>
    rw [List.forall_mem_cons] at h
    exact ⟨h.1, ih h.2⟩

theorem fits_array {d : Nat} {xs : List Value} (h : Enclosed (fun d xs => ∀ x ∈ xs, x.Fits d) d xs) :
    (Value.array xs).Fits d := by
  obtain ⟨e, rfl, h⟩ := h
  refine ⟨Nat.succ_le_succ (itemsNesting_le fun x hx => (h x hx).nesting_le), ?_⟩
  intro hf
  cases hf with
  | array hf => exact exactItems fun x hx => (h x hx).exact (hf x hx)

theorem fits_object {d : Nat} {ms : List (String × Value)}
    (h : Enclosed (fun d ms => ∀ m ∈ ms, m.2.Fits d) d ms) : (Value.object (sortMembers ms)).Fits d := by
  obtain ⟨e, rfl, h⟩ := h
  have hsorted : ∀ m ∈ sortMembers ms, m.2.Fits e := fun m hm => h m (mem_of_mem_sortMembers hm)
  refine ⟨Nat.succ_le_succ (membersNesting_le fun m hm => (hsorted m hm).nesting_le), ?_⟩
  intro hf
  cases hf with
  | object hf =>
    exact ⟨ascending_sortMembers ms, exactMembers fun m hm => (hsorted m hm).exact (hf m hm)⟩

theorem number_int {spelling : Spelling} {n : Int} (h : spelling.number? = some (.int n)) :
    -2 ^ 63 ≤ n ∧ n < 2 ^ 64 := by
  have hfloat : ∀ x : Option Binary64, ∀ f : Binary64 → Binary64,
      x.map (fun x => Number.float (f x)) ≠ some (.int n) := by
    intro x f hx
    obtain ⟨_, _, hx⟩ := Option.map_eq_some_iff.mp hx
    cases hx
  unfold Spelling.number? at h
  dsimp only at h
  split at h
  · split at h
    · split at h
      · rename_i hn
        cases h
        change 0 < ofDigits spelling.whole ∧ ofDigits spelling.whole ≤ 2 ^ 63 at hn
        omega
      · exact absurd h (hfloat _ _)
    · split at h
      · rename_i hn
        cases h
        change ofDigits spelling.whole < 2 ^ 64 at hn
        omega
      · exact absurd h (hfloat _ _)
  · exact absurd h (hfloat _ _)

theorem fits_number {spelling : Spelling} {number : Number} (h : spelling.number? = some number)
    (d : Nat) : (Value.number number).Fits d where
  nesting_le := Nat.zero_le d
  exact hf := by
    cases number with
    | int n => exact number_int h
    | float x => cases hf

theorem yields_number : Yields 0 (fun d n => (Value.number n).Fits d) readNumber := by
  intro cs number rest hread
  obtain ⟨⟨spelling, rest'⟩, hspelling, hread⟩ := bind_eq_ok.mp hread
  dsimp only at hread
  split at hread
  · cases hread
  · rename_i hnumber
    cases hread
    exact .of_closes (closes_readSpelling hspelling) (fits_number hnumber)

theorem closes_map_readWord {w : Char} {ws : List Char} {x y : α}
    (hplain : (w :: ws).all Plain = true)
    (h : (readWord ws cs).map (fun rest => (x, rest)) = .ok (y, rest)) :
    Closes 0 (w :: cs) rest ∧ x = y := by
  obtain ⟨rest', hword, heq⟩ := map_eq_ok.mp h
  cases heq
  exact ⟨closes_readWord hplain hword, rfl⟩

theorem yields_scalar : Yields 0 Value.Fits readScalar := by
  intro cs v rest hread
  unfold readScalar at hread
  split at hread
  · cases hread
  · obtain ⟨hrest, rfl⟩ := closes_map_readWord (w := 'n') rfl hread
    exact .of_closes hrest fun d => ⟨Nat.zero_le d, fun _ => trivial⟩
  · obtain ⟨hrest, rfl⟩ := closes_map_readWord (w := 't') rfl hread
    exact .of_closes hrest fun d => ⟨Nat.zero_le d, fun _ => trivial⟩
  · obtain ⟨hrest, rfl⟩ := closes_map_readWord (w := 'f') rfl hread
    exact .of_closes hrest fun d => ⟨Nat.zero_le d, fun _ => trivial⟩
  · obtain ⟨⟨s, rest'⟩, hstring, heq⟩ := map_eq_ok.mp hread
    cases heq
    exact .of_closes (closes_readString hstring) fun d => ⟨Nat.zero_le d, fun _ => trivial⟩
  · split at hread
    · obtain ⟨⟨n, rest'⟩, hnumber, heq⟩ := map_eq_ok.mp hread
      cases heq
      exact (yields_number hnumber).mono fun _ h => h
    · cases hread

/-- Whatever is read as a value fits its text. -/
theorem yields_value (levels : Nat) : Yields 0 Value.Fits (readValue levels) := by
  induction levels with
  | zero =>
    intro cs v rest hread
    unfold readValue at hread
    split at hread
    · cases hread
    · cases hread
    · exact (yields_scalar hread).after (closes_skipSpace cs)
  | succ levels ih =>
    intro cs v rest hread
    unfold readValue at hread
    split at hread
    · rename_i hspace
      obtain ⟨⟨xs, rest'⟩, hitems, heq⟩ := map_eq_ok.mp hread
      cases heq
      exact ((yields_items ih hitems).enclosed (.inl rfl) hspace).mono fun _ => fits_array
    · rename_i hspace
      obtain ⟨⟨ms, rest'⟩, hmembers, heq⟩ := map_eq_ok.mp hread
      cases heq
      exact ((yields_members ih hmembers).enclosed (.inr rfl) hspace).mono fun _ => fits_object
    · exact (yields_scalar hread).after (closes_skipSpace cs)

theorem yields_string : Yields 0 (fun _ _ => True) stringReader := by
  apply yields_trivial
  intro cs s rest hread
  unfold stringReader at hread
  split at hread
  · rename_i hspace
    exact closes_of_skipSpace hspace (closes_readString hread)
  · cases hread

theorem yields_bool : Yields 0 (fun _ _ => True) boolReader := by
  apply yields_trivial
  intro cs b rest hread
  unfold boolReader at hread
  split at hread
  · rename_i hspace
    exact closes_of_skipSpace hspace (closes_map_readWord rfl hread).1
  · rename_i hspace
    exact closes_of_skipSpace hspace (closes_map_readWord rfl hread).1
  · cases hread

theorem yields_nat (limit : Nat) (expected : Expected) :
    Yields 0 (fun _ _ => True) (natReader limit expected) := by
  apply yields_trivial
  intro cs n rest hread
  unfold natReader at hread
  dsimp only at hread
  split at hread
  · rename_i hscalar
    split at hread
    · cases hread
      exact (closes_skipSpace cs).trans (yields_scalar hscalar).closes
    · cases hread
  · cases hread

theorem yields_word32 : Yields 0 (fun _ _ => True) word32Reader :=
  (yields_nat UInt32.size .word32).mapped fun _ _ _ => trivial

theorem yields_word64 : Yields 0 (fun _ _ => True) word64Reader :=
  (yields_nat UInt64.size .word64).mapped fun _ _ _ => trivial

theorem yields_fitsAll {value : α → Value} {WithoutFloats Exact : α → Prop} {item : Reader α}
    (h : Yields 0 (fun d => Fits value WithoutFloats Exact (d + 1)) item) :
    Yields 0 (fun d => FitsAll value WithoutFloats Exact (d + 1)) (listReader (some item)) := by
  apply (yields_list h).mono
  rintro _ xs ⟨d, rfl, hxs⟩
  exact fitsAll hxs

end GraphBrowser.Json
