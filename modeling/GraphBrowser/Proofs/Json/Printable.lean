import GraphBrowser.Json.Value
import Mathlib.Data.List.Basic
import Mathlib.Tactic.SplitIfs

namespace GraphBrowser.Json

def Printable (cs : List Char) : Prop := ∀ c ∈ cs, 0x20 ≤ c.toNat

instance (cs : List Char) : Decidable (Printable cs) :=
  List.decidableBAll (fun c : Char => 0x20 ≤ c.toNat) cs

theorem printable_cons {c : Char} {cs : List Char} :
    Printable (c :: cs) ↔ 0x20 ≤ c.toNat ∧ Printable cs := List.forall_mem_cons

theorem printable_append {cs ds : List Char} :
    Printable (cs ++ ds) ↔ Printable cs ∧ Printable ds := List.forall_mem_append

theorem Printable.between {cs : List Char} (h : Printable cs) {first last : Char}
    (hfirst : 0x20 ≤ first.toNat) (hlast : 0x20 ≤ last.toNat) : Printable (first :: (cs ++ [last])) := by
  rw [printable_cons, printable_append]
  exact ⟨hfirst, h, List.forall_mem_singleton.mpr hlast⟩

theorem printable_digitChar : ∀ n < 16, 0x20 ≤ (Nat.digitChar n).toNat := by decide

theorem printable_escapedChar (c : Char) : Printable (escapedChar c) := by
  unfold escapedChar
  split_ifs with hquote hslash hb ht hn hf hr hcontrol
  iterate 7 decide
  · have hdigits : Printable (controlDigits c.toNat) :=
      printable_cons.mpr ⟨printable_digitChar _ (by omega),
        List.forall_mem_singleton.mpr (printable_digitChar _ (by omega))⟩
    simp only [printable_cons]
    exact ⟨by decide, by decide, by decide, by decide, hdigits⟩
  · exact List.forall_mem_singleton.mpr (Nat.not_lt.mp hcontrol)

theorem printable_string (s : String) : Printable (printString s) := by
  have hescaped : Printable (s.toList.flatMap escapedChar) := by
    intro c hc
    obtain ⟨c', -, hc'⟩ := List.mem_flatMap.mp hc
    exact printable_escapedChar c' c hc'
  exact hescaped.between (by decide) (by decide)

theorem printable_toDigits (n : Nat) : Printable (Nat.toDigits 10 n) := by
  intro c hc
  have hdigit := Nat.isDigit_of_mem_toDigits (by decide) (by decide) hc
  rw [Char.isDigit, Bool.and_eq_true, decide_eq_true_eq] at hdigit
  exact Nat.le_trans (by decide) (UInt32.le_iff_toNat_le.mp hdigit.1)

theorem printable_int (n : Int) : Printable (intText n) := by
  unfold intText
  split
  · exact printable_cons.mpr ⟨by decide, printable_toDigits _⟩
  · exact printable_toDigits _

theorem printable_replicate (n : Nat) {c : Char} (h : 0x20 ≤ c.toNat) :
    Printable (List.replicate n c) := by
  intro c' hc
  rw [List.eq_of_mem_replicate hc]
  exact h

theorem printable_mantissa : ∀ digits : List Char, Printable digits →
    Printable (match digits with
      | [] => []
      | [c] => [c]
      | c :: cs => c :: '.' :: cs)
  | [], h => h
  | [_], h => h
  | _ :: _ :: _, h => by
    rw [printable_cons] at h
    exact printable_cons.mpr ⟨h.1, printable_cons.mpr ⟨by decide, h.2⟩⟩

theorem printable_decimal (d : Decimal) : Printable (decimalText d) := by
  have hdigits := printable_toDigits d.digits
  unfold decimalText
  dsimp only
  generalize Nat.toDigits 10 d.digits = digits at hdigits
  generalize d.exponent + (digits.length : Int) - 1 = e
  have hwhole : Printable (digits.take (e + 1).toNat) := fun c hc => hdigits c (List.mem_of_mem_take hc)
  have hfraction : Printable (digits.drop (e + 1).toNat) := fun c hc => hdigits c (List.mem_of_mem_drop hc)
  have hzeros : ∀ n, Printable (List.replicate n '0') := fun n => printable_replicate n (by decide)
  have hexponent := printable_toDigits e.natAbs
  have hmantissa := printable_mantissa digits hdigits
  split_ifs <;> simp only [printable_cons, printable_append]
  · decide
  · exact ⟨by decide, by decide, hzeros _, hdigits⟩
  · exact ⟨⟨hwhole, hzeros _⟩, by decide, by decide⟩
  · exact ⟨⟨hwhole, hzeros _⟩, by decide, hfraction⟩
  · exact ⟨hmantissa, by decide, by decide, hexponent⟩
  · exact ⟨hmantissa, by decide, by decide, hexponent⟩

theorem printable_float (x : Binary64) : Printable (floatText x) := by
  unfold floatText
  dsimp only
  split
  · exact printable_cons.mpr ⟨by decide, printable_decimal _⟩
  · exact printable_decimal _

mutual

theorem printable_value : (v : Value) → Printable v.print
  | .null => by decide
  | .bool true => by decide
  | .bool false => by decide
  | .number (.int n) => printable_int n
  | .number (.float x) => printable_float x
  | .string s => printable_string s
  | .array xs => printable_cons.mpr ⟨by decide, printable_items xs⟩
  | .object ms => printable_cons.mpr ⟨by decide, printable_members ms⟩

theorem printable_items : (xs : List Value) → Printable (printItems xs)
  | [] => by decide
  | [x] => printable_append.mpr ⟨printable_value x, by decide⟩
  | x :: y :: xs =>
    printable_append.mpr ⟨printable_value x, printable_cons.mpr ⟨by decide, printable_items (y :: xs)⟩⟩

theorem printable_members : (ms : List (String × Value)) → Printable (printMembers ms)
  | [] => by decide
  | [(key, v)] => by
    rw [printMembers]
    simp only [printable_append, printable_cons]
    exact ⟨printable_string key, by decide, printable_value v, by decide⟩
  | (key, v) :: m :: ms => by
    rw [printMembers]
    simp only [printable_append, printable_cons]
    exact ⟨printable_string key, by decide, printable_value v, by decide, printable_members (m :: ms)⟩

end

end GraphBrowser.Json
