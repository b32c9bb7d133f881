import GraphBrowser.Decimal.Binary64
/-!
The shortest decimal that reads back as a given binary number, found by testing decimal grids from
the coarsest to the finest in exact arithmetic.
-/
namespace GraphBrowser

structure Decimal where
  digits : Nat
  exponent : Int
  deriving DecidableEq, Repr, Inhabited

namespace Decimal

def digitCount (n : Nat) : Nat := (Nat.toDigits 10 n).length

/-- The `k` with `10 ^ k ≤ num / den < 10 ^ (k + 1)`. -/
def magnitude (num den : Nat) : Int :=
  if den ≤ num then
    (digitCount (num / den) : Int) - 1
  else
    -(digitCount ((den + num - 1) / num - 1) : Int)

/-- The decimals between two bounds, with or without the bounds themselves. Bounds and value are
numerators over the common denominator `den`. -/
structure Interval where
  low : Nat
  value : Nat
  high : Nat
  den : Nat
  closed : Bool

/-- The interval of the reals that round to a positive number. The gap below a power of two is half
as wide as the gap above it. -/
def Interval.of (x : Binary64) : Interval :=
  let scale := 1 <<< (x.exponent - 2).toNat
  let lower :=
    if x.mantissa = Binary64.hiddenBit ∧ x.exponent > Binary64.minExponent then 1 else 2
  { low := (4 * x.mantissa - lower) * scale
    value := 4 * x.mantissa * scale
    high := (4 * x.mantissa + 2) * scale
    den := 1 <<< (2 - x.exponent).toNat
    closed := x.mantissa % 2 = 0 }

def Interval.holds (i : Interval) (num den : Nat) : Bool :=
  if i.closed then
    i.low * den ≤ num * i.den && num * i.den ≤ i.high * den
  else
    i.low * den < num * i.den && num * i.den < i.high * den

/-- The point of the grid of multiples of `10 ^ u` that lies in the interval next to its value; of
two points the nearer one, and the even one where both are equally near. -/
def Interval.onGrid? (i : Interval) (u : Int) : Option Decimal :=
  let up := Nat.pow 10 u.toNat
  let down := Nat.pow 10 (-u).toNat
  let below := i.value * down / (i.den * up)
  let inside (d : Nat) := i.holds (d * up) down
  let twice := 2 * i.value * down
  let middle := (2 * below + 1) * (i.den * up)
  let lowerNearer := twice < middle || (twice == middle && below % 2 == 0)
  match inside below, inside (below + 1) with
  | true, true => some ⟨if lowerNearer then below else below + 1, u⟩
  | true, false => some ⟨below, u⟩
  | false, true => some ⟨below + 1, u⟩
  | false, false => none

def normalize (d : Decimal) : Decimal :=
  if h : d.digits ≠ 0 ∧ d.digits % 10 = 0 then
    normalize ⟨d.digits / 10, d.exponent + 1⟩
  else
    d
  termination_by d.digits
  decreasing_by omega

/-- Seventeen digits tell any two binary numbers apart, so one of the grids has a point. -/
def shortest (x : Binary64) : Decimal :=
  if x.isZero then
    ⟨0, 0⟩
  else
    let i := Interval.of x
    let k := magnitude i.value i.den
    let grid (n : Nat) : Option Decimal := i.onGrid? (k - n)
    (((List.range 17).findSome? grid).getD ⟨0, 0⟩).normalize

end Decimal

end GraphBrowser
