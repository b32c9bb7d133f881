namespace GraphBrowser

/-- The number `mantissa * 2 ^ exponent`, negated when `negative` is set. The mantissa stays below
`2 ^ 53`; it is at least `2 ^ 52` unless the exponent is the least one. -/
structure Binary64 where
  negative : Bool
  mantissa : Nat
  exponent : Int
  deriving DecidableEq, Repr, Inhabited

namespace Binary64

def hiddenBit : Nat := 0x10000000000000

def minExponent : Int := -1074

def maxExponent : Int := 971

def zero : Binary64 := ⟨false, 0, minExponent⟩

def isZero (x : Binary64) : Bool := x.mantissa == 0

def neg (x : Binary64) : Binary64 := { x with negative := !x.negative }

/-- The whole number nearest to `num / den`; a half goes to the even neighbour. -/
def roundDiv (num den : Nat) : Nat :=
  let q := num / den
  let r := num % den
  if 2 * r < den ∨ (2 * r = den ∧ q % 2 = 0) then q else q + 1

def inUnits (num den : Nat) (e : Int) : Nat × Nat :=
  (num <<< (-e).toNat, den <<< e.toNat)

def unitExponent (num den : Nat) : Int :=
  let guess : Int := (num.log2 : Int) - (den.log2 : Int) - 52
  let (n, d) := inUnits num den guess
  max (if n / d < hiddenBit then guess - 1 else guess) minExponent

def ofRatio (num den : Nat) : Option Binary64 :=
  if num = 0 then
    some zero
  else
    let e := unitExponent num den
    let (n, d) := inUnits num den e
    let m := roundDiv n d
    let (m, e) := if m = 2 * hiddenBit then (hiddenBit, e + 1) else (m, e)
    if e > maxExponent then none else some ⟨false, m, e⟩

def ratio (x : Binary64) : Nat × Nat :=
  (x.mantissa <<< x.exponent.toNat, 1 <<< (-x.exponent).toNat)

def mul (x y : Binary64) : Option Binary64 :=
  ofRatio (x.ratio.1 * y.ratio.1) (x.ratio.2 * y.ratio.2)

def div (x y : Binary64) : Option Binary64 :=
  ofRatio (x.ratio.1 * y.ratio.2) (x.ratio.2 * y.ratio.1)

def tenPow (k : Nat) : Option Binary64 := ofRatio (Nat.pow 10 k) 1

/-- Divide by the `n`th power of `10 ^ 308`, rounding after each division. -/
def scaleDown : Nat → Binary64 → Option Binary64
  | 0, x => some x
  | n + 1, x => if x.isZero then some x else do scaleDown n (← x.div (← tenPow 308))

/-- `significand * 10 ^ exponent`: the significand is rounded first, then the product or quotient
with the rounded power of ten. Exponents below `-308` are taken in steps of `308`. `none` where the
magnitude is too large. -/
def ofDecimal (significand : Nat) (exponent : Int) : Option Binary64 := do
  let x ← ofRatio significand 1
  if exponent < 0 then
    let k := (-exponent).toNat
    let steps := (k - 1) / 308
    (← scaleDown steps x).div (← tenPow (k - 308 * steps))
  else if x.isZero then
    some x
  else if exponent ≤ 308 then
    x.mul (← tenPow exponent.toNat)
  else
    none

end Binary64

end GraphBrowser
