import GraphBrowser.Text.Basic
/-!
Punycode: letters beyond ASCII written with the letters, digits and hyphens of a host name. The
code points are inserted in ascending order; each distance from the one before is a number in
base 36 whose digit thresholds adapt to the distances seen so far.
-/
namespace GraphBrowser.Url.Punycode

def base : Nat := 36

def firstCode : Nat := 128

def firstBias : Nat := 72

/-- Letters stand for 0 to 25 and digits for 26 to 35. -/
def digitChar (d : Nat) : Char :=
  if d < 26 then .ofNat ('a'.toNat + d) else .ofNat ('0'.toNat + (d - 26))

def digitValue? (c : Char) : Option Nat :=
  if 'a' ≤ c ∧ c ≤ 'z' then some (c.toNat - 'a'.toNat)
  else if 'A' ≤ c ∧ c ≤ 'Z' then some (c.toNat - 'A'.toNat)
  else if '0' ≤ c ∧ c ≤ '9' then some (c.toNat - '0'.toNat + 26)
  else none

def threshold (k bias : Nat) : Nat := min 26 (max 1 (k - bias))

def reduce (delta k : Nat) : Nat × Nat :=
  if 455 < delta then reduce (delta / 35) (k + base) else (delta, k)
  termination_by delta
  decreasing_by exact Nat.div_lt_self (by omega) (by omega)

def adapt (delta count : Nat) (first : Bool) : Nat :=
  let delta := if first then delta / 700 else delta / 2
  let (delta, k) := reduce (delta + delta / count) 0
  k + base * delta / (delta + 38)

def encodeDelta (bias k q : Nat) : List Char :=
  let t := threshold k bias
  if q < t then
    [digitChar q]
  else
    digitChar (t + (q - t) % (base - t)) :: encodeDelta bias (k + base) ((q - t) / (base - t))
  termination_by q
  decreasing_by
    have h1 : 1 ≤ threshold k bias := by simp only [threshold]; omega
    have h2 : (q - threshold k bias) / (base - threshold k bias) ≤ q - threshold k bias :=
      Nat.div_le_self _ _
    omega

/-- What has been written, and where the next distance starts. -/
structure Progress where
  output : List Char
  delta : Nat
  bias : Nat
  placed : Nat

def Progress.pass (basic n : Nat) (p : Progress) (c : Char) : Progress :=
  if c.toNat < n then
    { p with delta := p.delta + 1 }
  else if c.toNat = n then
    { output := p.output ++ encodeDelta p.bias base p.delta
      delta := 0
      bias := adapt p.delta (p.placed + 1) (p.placed == basic)
      placed := p.placed + 1 }
  else
    p

def placeAll (label : List Char) (basic : Nat) : List Nat → (n : Nat) → Progress → Progress
  | [], _, p => p
  | m :: codes, n, p =>
    let p := { p with delta := p.delta + (m - n) * (p.placed + 1) }
    let p := label.foldl (Progress.pass basic m) p
    placeAll label basic codes (m + 1) { p with delta := p.delta + 1 }

def insertCode (n : Nat) : List Nat → List Nat
  | [] => [n]
  | m :: rest =>
    if n < m then n :: m :: rest
    else if n = m then m :: rest
    else m :: insertCode n rest

def encode (label : List Char) : List Char :=
  let basic := label.filter fun c => c.toNat < firstCode
  let others := label.filter fun c => firstCode ≤ c.toNat
  let codes := others.foldr (fun c cs => insertCode c.toNat cs) []
  let start : Progress := ⟨[], 0, firstBias, basic.length⟩
  let written := (placeAll label basic.length codes firstCode start).output
  if basic.isEmpty then written else basic ++ '-' :: written

/-- What has been read: the characters placed, the last code point and its place, and the distance
being read with the weight of its next digit. -/
structure Reading where
  output : List Char
  code : Nat
  place : Nat
  bias : Nat
  delta : Nat
  weight : Nat
  position : Nat

/-- No distance and no weight may exceed this number. -/
def maxNumber : Nat := 0xffffffff

def Reading.digit (r : Reading) (d : Nat) : Option Reading :=
  let t := threshold r.position r.bias
  let delta := r.delta + d * r.weight
  let weight := r.weight * (base - t)
  let place := r.place + delta
  if maxNumber < place ∨ (t ≤ d ∧ maxNumber < weight) then
    none
  else if t ≤ d then
    some { r with delta := delta, weight := weight, position := r.position + base }
  else
    let count := r.output.length + 1
    let code := r.code + place / count
    if Nat.isValidChar code then
      some {
        output := r.output.insertIdx (place % count) (.ofNat code)
        code := code
        place := place % count + 1
        bias := adapt delta count (r.place == 0)
        delta := 0
        weight := 1
        position := base }
    else
      none

def readDigits : List Char → Reading → Option Reading
  | [], r => some r
  | c :: cs, r => do readDigits cs (← r.digit (← digitValue? c))

/-- Read a label. The last hyphen ends the ASCII characters, if there are any. -/
def decode? (label : List Char) : Option (List Char) := do
  let tail := Text.afterLast '-' label
  let basic := label.take (label.length - tail.length - 1)
  let start : Reading := ⟨basic, firstCode, 0, firstBias, 0, 1, base⟩
  let r ← readDigits (if basic.isEmpty then label else tail) start
  if r.position = base ∧ basic.all (fun c => c.toNat < firstCode) then some r.output else none

end GraphBrowser.Url.Punycode
