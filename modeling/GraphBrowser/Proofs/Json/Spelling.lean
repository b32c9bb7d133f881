import GraphBrowser.Json.Token

namespace GraphBrowser.Json

def Blank (cs : List Char) : Prop := ∀ c ∈ cs, c = ' ' ∨ c = '\t' ∨ c = '\n' ∨ c = '\r'

def IsHex (c : Char) (value : Nat) : Prop :=
  value < 16 ∧ (c = Nat.digitChar value ∨ c = (Nat.digitChar value).toUpper)

inductive Hex4 : List Char → Nat → Prop
  | digits {a b c d : Char} {p q r s : Nat} : IsHex a p → IsHex b q → IsHex c r → IsHex d s →
    Hex4 [a, b, c, d] (((p * 16 + q) * 16 + r) * 16 + s)

def shortEscapes : List (Char × Char) :=
  [('"', '"'), ('\\', '\\'), ('/', '/'), ('b', '\x08'), ('f', '\x0c'), ('n', '\n'), ('r', '\r'),
    ('t', '\t')]

/-- The ways to write a character inside a string: as it is, with a short escape, by its number, or
beyond 16 bits by a pair of surrogates. -/
inductive CharText : Char → List Char → Prop
  | plain {c : Char} : 0x20 ≤ c.toNat → c ≠ '"' → c ≠ '\\' → CharText c [c]
  | short {letter c : Char} : (letter, c) ∈ shortEscapes → CharText c ['\\', letter]
  | hex {c : Char} {ds : List Char} : Hex4 ds c.toNat → CharText c ('\\' :: 'u' :: ds)
  | pair {c : Char} {ds es : List Char} {high low : Nat} : Hex4 ds (0xd800 + high) →
    Hex4 es (0xdc00 + low) → high < 0x400 → low < 0x400 →
    c.toNat = 0x10000 + high * 0x400 + low → CharText c ('\\' :: 'u' :: (ds ++ '\\' :: 'u' :: es))

inductive CharsText : List Char → List Char → Prop
  | quote : CharsText [] ['"']
  | char {c : Char} {s x cs : List Char} : CharText c x → CharsText s cs →
    CharsText (c :: s) (x ++ cs)

def StringText (s : String) (cs : List Char) : Prop := ∃ body, CharsText s.toList body ∧ cs = '"' :: body

inductive RawChars : List Char → Prop
  | quote : RawChars ['"']
  | plain {c : Char} {cs : List Char} : 0x20 ≤ c.toNat → c ≠ '"' → c ≠ '\\' → RawChars cs →
    RawChars (c :: cs)
  | short {letter c : Char} {cs : List Char} : (letter, c) ∈ shortEscapes → RawChars cs →
    RawChars ('\\' :: letter :: cs)
  | hex {ds cs : List Char} {n : Nat} : Hex4 ds n → RawChars cs → RawChars ('\\' :: 'u' :: (ds ++ cs))

/-- What may follow a number: not what could be a part of it. -/
def Ended (rest : List Char) : Prop :=
  ∀ c ∈ rest.head?, isDigit c = false ∧ c ≠ '.' ∧ c ≠ 'e' ∧ c ≠ 'E'

def Digits (cs : List Char) : Prop := cs ≠ [] ∧ ∀ c ∈ cs, isDigit c = true

inductive FractionText : List Char → Prop
  | none : FractionText []
  | point {ds : List Char} : Digits ds → FractionText ('.' :: ds)

inductive ExponentText : List Char → Prop
  | none : ExponentText []
  | unsigned {e : Char} {ds : List Char} : e = 'e' ∨ e = 'E' → Digits ds → ExponentText (e :: ds)
  | signed {e sign : Char} {ds : List Char} : e = 'e' ∨ e = 'E' → sign = '+' ∨ sign = '-' →
    Digits ds → ExponentText (e :: sign :: ds)

/-- The whole part of a number, without a needless zero. -/
def WholeText (cs : List Char) : Prop := cs = ['0'] ∨ Digits cs ∧ cs.head? ≠ some '0'

inductive MagnitudeText : List Char → Prop
  | parts {ws fs es : List Char} : WholeText ws → FractionText fs → ExponentText es →
    MagnitudeText (ws ++ (fs ++ es))

inductive NumberText : List Char → Prop
  | positive {cs : List Char} : MagnitudeText cs → NumberText cs
  | negative {cs : List Char} : MagnitudeText cs → NumberText ('-' :: cs)

theorem isSpace_of_blank {cs : List Char} (h : Blank cs) {c : Char} (hc : c ∈ cs) :
    isSpace c = true := by
  rcases h c hc with rfl | rfl | rfl | rfl <;> rfl

theorem skipSpace_blank {w : List Char} (h : Blank w) (cs : List Char) :
    skipSpace (w ++ cs) = skipSpace cs := by
  rw [skipSpace, List.dropWhile_append_of_pos (fun c hc => isSpace_of_blank h hc)]
  rfl

theorem skipSpace_cons {c : Char} (h : isSpace c = false) (cs : List Char) :
    skipSpace (c :: cs) = c :: cs := by
  simp [skipSpace, h]

theorem skipSpace_blank_cons {w : List Char} (hw : Blank w) {c : Char} (h : isSpace c = false)
    (cs : List Char) : skipSpace (w ++ c :: cs) = c :: cs := by
  rw [skipSpace_blank hw, skipSpace_cons h]

theorem blank_nil : Blank [] := by
  intro c hc
  cases hc

theorem ended_nil : Ended [] := by
  intro c hc
  cases hc

theorem ended_cons {c : Char} (h : c ∈ [',', ']', '\x7d', ' ', '\t', '\n', '\r']) (cs : List Char) :
    Ended (c :: cs) := by
  intro d hd
  cases hd
  simp only [List.mem_cons, List.not_mem_nil, or_false] at h
  rcases h with rfl | rfl | rfl | rfl | rfl | rfl | rfl <;> decide

theorem ended_blank {w : List Char} (hw : Blank w) {rest : List Char} (h : Ended rest) :
    Ended (w ++ rest) := by
  cases w with
  | nil => exact h
  | cons c w =>
    apply ended_cons
    rcases hw c (by simp) with rfl | rfl | rfl | rfl <;> simp

theorem ended_punctuation {w : List Char} (hw : Blank w) {c : Char}
    (h : c ∈ [',', ']', '\x7d', ' ', '\t', '\n', '\r']) (cs rest : List Char) :
    Ended ((w ++ c :: cs) ++ rest) := by
  rw [List.append_assoc]
  exact ended_blank hw (ended_cons h (cs ++ rest))

theorem digitValue_hex {c : Char} {value : Nat} (h : IsHex c value) :
    Text.digitValue? c = some value := by
  obtain ⟨hv, h⟩ := h
  have hall : ∀ v < 16, Text.digitValue? (Nat.digitChar v) = some v ∧
      Text.digitValue? (Nat.digitChar v).toUpper = some v := by decide
  rcases h with rfl | rfl
  · exact (hall value hv).1
  · exact (hall value hv).2

theorem hex4_digits {ds : List Char} {n : Nat} (h : Hex4 ds n) :
    ∃ a b c d, ds = [a, b, c, d] ∧ hex4? a b c d = some n := by
  cases h with
  | @digits a b c d p q r s ha hb hc hd =>
    refine ⟨a, b, c, d, rfl, ?_⟩
    simp only [hex4?, digitValue_hex ha, digitValue_hex hb, digitValue_hex hc, digitValue_hex hd]
    change some _ = some _
    congr 1
    omega

theorem shortEscape_mem {letter c : Char} (h : (letter, c) ∈ shortEscapes) :
    shortEscape? letter = some c ∧ letter ≠ 'u' := by
  simp only [shortEscapes, List.mem_cons, Prod.mk.injEq, List.not_mem_nil, or_false] at h
  rcases h with ⟨rfl, rfl⟩ | ⟨rfl, rfl⟩ | ⟨rfl, rfl⟩ | ⟨rfl, rfl⟩ | ⟨rfl, rfl⟩ | ⟨rfl, rfl⟩ |
    ⟨rfl, rfl⟩ | ⟨rfl, rfl⟩ <;> exact ⟨rfl, by decide⟩

end GraphBrowser.Json
