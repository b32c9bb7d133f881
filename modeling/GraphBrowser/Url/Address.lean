import GraphBrowser.Text.Basic

namespace GraphBrowser.Url.Ipv4

/-- A number with a leading zero is octal, one with `0x` hexadecimal; a bare `0x` is zero. -/
def number? : List Char → Option Nat
  | [] => none
  | '0' :: 'x' :: ds => Text.ofDigits? 16 ds
  | '0' :: 'X' :: ds => Text.ofDigits? 16 ds
  | '0' :: d :: ds => Text.ofDigits? 8 (d :: ds)
  | ds => Text.ofDigits? 10 ds

def parts (host : List Char) : List (List Char) :=
  let ps := Text.pieces '.' host
  if ps.getLast? = some [] then ps.dropLast else ps

/-- Whether a host must be an address because its last part is a number, also one with wrong
digits. -/
def endsInNumber (host : List Char) : Bool :=
  match (parts host).getLast? with
  | none => false
  | some part => (!part.isEmpty && part.all Char.isDigit) || (number? part).isSome

def octets (n : Nat) : Nat := 1 <<< (8 * n)

def ofNumbers? (ns : List Nat) : Option Nat :=
  match ns.getLast? with
  | none => none
  | some last =>
    let leading := ns.dropLast
    if leading.all (· ≤ 255) && last < octets (4 - leading.length) then
      some (leading.zipIdx.foldl (fun a (n, i) => a + n * octets (3 - i)) last)
    else
      none

def parse? (host : List Char) : Option Nat :=
  let ps := parts host
  if 4 < ps.length then none else do ofNumbers? (← ps.mapM number?)

def octet (address i : Nat) : Nat := address / octets i % 256

def text (address : Nat) : String :=
  ".".intercalate ([3, 2, 1, 0].map fun i => toString (octet address i))

end GraphBrowser.Url.Ipv4

namespace GraphBrowser.Url.Ipv6

def piece? (cs : List Char) : Option Nat :=
  if cs.isEmpty || 4 < cs.length then none else Text.ofDigits? 16 cs

def octet? (cs : List Char) : Option Nat :=
  match cs with
  | [] => none
  | '0' :: _ :: _ => none
  | _ => (Text.ofDigits? 10 cs).filter (· ≤ 255)

def dotted? (cs : List Char) : Option (List Nat) :=
  match (Text.pieces '.' cs).mapM octet? with
  | some [a, b, c, d] => some [a * 256 + b, c * 256 + d]
  | _ => none

/-- Pieces with single colons between them; the last one may be dotted. -/
def pieces? (mayEndDotted : Bool) (cs : List Char) : Option (List Nat) :=
  if cs.isEmpty then
    some []
  else
    let groups := Text.pieces ':' cs
    let last := groups.getLast?.getD []
    if mayEndDotted && last.contains '.' then do
      return (← groups.dropLast.mapM piece?) ++ (← dotted? last)
    else
      groups.mapM piece?

def cutDouble? : List Char → Option (List Char × List Char)
  | [] => none
  | ':' :: ':' :: rest => some ([], rest)
  | c :: rest => (cutDouble? rest).map fun (before, after) => (c :: before, after)

def parse? (cs : List Char) : Option (List Nat) :=
  match cutDouble? cs with
  | none => (pieces? true cs).filter fun ps => ps.length = 8
  | some (before, after) => do
    let front ← pieces? false before
    let back ← pieces? true after
    if front.length + back.length ≤ 7 then
      some (front ++ List.replicate (8 - front.length - back.length) 0 ++ back)
    else
      none

def zerosAt (pieces : List Nat) : Nat := (pieces.takeWhile (· = 0)).length

/-- The place and length of the first longest run of zeros, if there is one of at least two. -/
def longestRun (pieces : List Nat) : Option (Nat × Nat) :=
  (List.range pieces.length).foldl (fun best i =>
    let n := zerosAt (pieces.drop i)
    if 2 ≤ n && (best.map (·.2)).getD 0 < n then some (i, n) else best) none

def pieceText (n : Nat) : String := String.ofList (Nat.toDigits 16 n)

def text (pieces : List Nat) : String :=
  let join (ps : List Nat) := ":".intercalate (ps.map pieceText)
  match longestRun pieces with
  | none => join pieces
  | some (i, n) => join (pieces.take i) ++ "::" ++ join (pieces.drop (i + n))

end GraphBrowser.Url.Ipv6
