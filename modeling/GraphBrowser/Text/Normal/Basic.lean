import GraphBrowser.Text.Normal.Table
import GraphBrowser.Text.Basic

namespace GraphBrowser.Text

/-- The combining class of a character. A character of class zero starts a new group of marks. -/
def combiningClass (c : Char) : Nat := (rangeValue? classRanges c.toNat).getD 0

namespace Hangul

def leadBase : Nat := 0x1100

def vowelBase : Nat := 0x1161

def tailBase : Nat := 0x11a7

def syllableBase : Nat := 0xac00

def leadCount : Nat := 19

def vowelCount : Nat := 21

def tailCount : Nat := 28

def decompose? (n : Nat) : Option (List Nat) :=
  let i := n - syllableBase
  if syllableBase ≤ n ∧ i < leadCount * vowelCount * tailCount then
    let lead := leadBase + i / (vowelCount * tailCount)
    let vowel := vowelBase + i % (vowelCount * tailCount) / tailCount
    let tail := tailBase + i % tailCount
    some (if tail = tailBase then [lead, vowel] else [lead, vowel, tail])
  else
    none

def compose? (a b : Nat) : Option Nat :=
  if leadBase ≤ a ∧ a < leadBase + leadCount ∧ vowelBase ≤ b ∧ b < vowelBase + vowelCount then
    some (syllableBase + ((a - leadBase) * vowelCount + (b - vowelBase)) * tailCount)
  else if syllableBase ≤ a ∧ a < syllableBase + leadCount * vowelCount * tailCount ∧
      (a - syllableBase) % tailCount = 0 ∧ tailBase < b ∧ b < tailBase + tailCount then
    some (a + (b - tailBase))
  else
    none

end Hangul

/-- Take a composite apart, and its first part again at most so many times. -/
def decomposeWithin : (levels : Nat) → Nat → List Nat
  | 0, n => [n]
  | levels + 1, n =>
    match composites.find? fun (_, _, whole) => whole == n with
    | some (first, second, _) => decomposeWithin levels first ++ [second]
    | none => [n]

/-- The parts of a character. The first part of a composite can be a composite twice more. -/
def decompose (c : Char) : List Char :=
  (match Hangul.decompose? c.toNat with
    | some letters => letters
    | none => decomposeWithin 3 c.toNat).map Char.ofNat

def composite? (a b : Nat) : Option Nat :=
  (composites.find? fun (first, second, _) => first == a && second == b).map
    fun (_, _, whole) => whole

def compose? (a b : Char) : Option Char :=
  (Hangul.compose? a.toNat b.toNat <|> composite? a.toNat b.toNat).map Char.ofNat

def insertMark (c : Char) : List Char → List Char
  | [] => [c]
  | d :: ds =>
    if 0 < combiningClass d ∧ combiningClass d < combiningClass c then d :: insertMark c ds
    else c :: d :: ds

/-- Order each group of marks by class; marks of one class keep their order. -/
def orderMarks (cs : List Char) : List Char := cs.foldr insertMark []

/-- Compose what follows a starting character with it. The marks passed over so far are held back,
last one first; they keep a character away that does not have a higher class than all of them. -/
def composeFrom (start : Char) (held : List Char) : List Char → List Char
  | [] => start :: held.reverse
  | c :: cs =>
    let reaches := held.head?.all fun h => combiningClass h < combiningClass c
    match if reaches then compose? start c else none with
    | some whole => composeFrom whole held cs
    | none =>
      if combiningClass c = 0 then start :: (held.reverse ++ composeFrom c [] cs)
      else composeFrom start (c :: held) cs

def composeAll : List Char → List Char
  | [] => []
  | c :: cs => if combiningClass c = 0 then composeFrom c [] cs else c :: composeAll cs

def normalForm (cs : List Char) : List Char := composeAll (orderMarks (cs.flatMap decompose))

end GraphBrowser.Text
