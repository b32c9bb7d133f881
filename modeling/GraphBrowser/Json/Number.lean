import GraphBrowser.Decimal.Shortest

namespace GraphBrowser.Json

inductive Number where
  | int (n : Int)
  | float (x : Binary64)
  deriving DecidableEq, Repr, Inhabited

structure Spelling where
  negative : Bool
  whole : List Nat
  fraction : Option (List Nat)
  exponent : Option (Bool × List Nat)
  deriving Repr

def ofDigits (ds : List Nat) : Nat := ds.foldl (fun n d => 10 * n + d) 0

/-- Append digits to a significand while it stays below `2 ^ 64`; the rest is returned. -/
def appendDigits (significand : Nat) : List Nat → Nat × List Nat
  | [] => (significand, [])
  | d :: ds =>
    if significand * 10 + d < UInt64.size then
      appendDigits (significand * 10 + d) ds
    else
      (significand, d :: ds)

/-- Exponents above this are not added up: they stand for zero or for a number out of range. -/
def maxExponent : Nat := 0x7fffffff

/-- The binary number of a spelling. Whole digits beyond 64 bits raise the exponent, fraction digits
lower it until one no longer fits, and all later ones are dropped. -/
def Spelling.magnitude? (s : Spelling) : Option Binary64 :=
  let (significand, extra) := appendDigits 0 s.whole
  let fraction := s.fraction.getD []
  let (significand, dropped) := appendDigits significand fraction
  let point : Int := (extra.length : Int) - ((fraction.length : Int) - dropped.length)
  match s.exponent with
  | none => Binary64.ofDecimal significand point
  | some (negative, ds) =>
    let e := ofDigits ds
    if e > maxExponent then
      if significand ≠ 0 ∧ negative = false then none else some Binary64.zero
    else
      Binary64.ofDecimal significand (if negative then point - e else point + e)

/-- A whole number in `-2 ^ 63 .. 2 ^ 64 - 1` stays exact, except negative zero. `none` stands for a
magnitude that no binary number has. -/
def Spelling.number? (s : Spelling) : Option Number :=
  let signed (x : Binary64) := if s.negative then x.neg else x
  let float := s.magnitude?.map fun x => Number.float (signed x)
  match s.fraction, s.exponent with
  | none, none =>
    let n := ofDigits s.whole
    if s.negative then
      if 0 < n ∧ n ≤ UInt64.size / 2 then some (.int (-(n : Int))) else float
    else if n < UInt64.size then
      some (.int n)
    else
      float
  | _, _ => float

def maxPositional : Int := 15

def minPositional : Int := -5

/-- The text of a decimal with the given digits: positional with at least one digit on either side
of the point, or one digit before the point and a signed exponent. -/
def decimalText (d : Decimal) : List Char :=
  let digits := Nat.toDigits 10 d.digits
  let e : Int := d.exponent + (digits.length : Int) - 1
  if d.digits = 0 then
    ['0', '.', '0']
  else if minPositional ≤ e ∧ e ≤ maxPositional then
    if e < 0 then
      '0' :: '.' :: (List.replicate (-e - 1).toNat '0' ++ digits)
    else
      let whole := digits.take (e + 1).toNat
      let fraction := digits.drop (e + 1).toNat
      whole ++ List.replicate d.exponent.toNat '0' ++
        '.' :: (if fraction.isEmpty then ['0'] else fraction)
  else
    let sign := if e < 0 then '-' else '+'
    let mantissa := match digits with
      | [] => []
      | [c] => [c]
      | c :: cs => c :: '.' :: cs
    mantissa ++ 'e' :: sign :: Nat.toDigits 10 e.natAbs

def floatText (x : Binary64) : List Char :=
  let text := decimalText (Decimal.shortest x)
  if x.negative then '-' :: text else text

def intText (n : Int) : List Char :=
  let digits := Nat.toDigits 10 n.natAbs
  if n < 0 then '-' :: digits else digits

def Number.text : Number → List Char
  | .int n => intText n
  | .float x => floatText x

end GraphBrowser.Json
