namespace GraphBrowser.Text

def replacement : Char := '\ufffd'

def isTail (b : UInt8) : Bool := 0x80 ≤ b && b ≤ 0xbf

/-- Whether a byte may follow the first byte of a character. Surrogates, overlong forms and numbers
beyond the last code point are ruled out here. -/
def isSecond (a b : UInt8) : Bool :=
  if a = 0xe0 then 0xa0 ≤ b && b ≤ 0xbf
  else if a = 0xed then 0x80 ≤ b && b ≤ 0x9f
  else if a = 0xf0 then 0x90 ≤ b && b ≤ 0xbf
  else if a = 0xf4 then 0x80 ≤ b && b ≤ 0x8f
  else isTail b

def lead? (a : UInt8) : Option (Nat × Nat) :=
  if a < 0x80 then some (a.toNat, 0)
  else if 0xc2 ≤ a && a ≤ 0xdf then some (a.toNat - 0xc0, 1)
  else if 0xe0 ≤ a && a ≤ 0xef then some (a.toNat - 0xe0, 2)
  else if 0xf0 ≤ a && a ≤ 0xf4 then some (a.toNat - 0xf0, 3)
  else none

/-- The bytes, at most `n`, that continue a character: the first one passes the given test, the
others any test for a continuing byte. -/
def tails (ok : UInt8 → Bool) : (n : Nat) → List UInt8 → List UInt8
  | n + 1, b :: rest => if ok b then b :: tails isTail n rest else []
  | _, _ => []

/-- The character that begins with `a`, and how many more bytes it takes. Where the bytes do not
complete a character there is none, and the bytes that could have belonged to it are taken. -/
def pieceAt (a : UInt8) (rest : List UInt8) : Option Char × Nat :=
  match lead? a with
  | none => (none, 0)
  | some (bits, n) =>
    let found := tails (isSecond a) n rest
    if found.length = n then
      (some (.ofNat (found.foldl (fun m b => m * 64 + (b.toNat - 0x80)) bits)), n)
    else
      (none, found.length)

def decodePieces : List UInt8 → List (Option Char)
  | [] => []
  | a :: rest => (pieceAt a rest).1 :: decodePieces (rest.drop (pieceAt a rest).2)
  termination_by bytes => bytes.length
  decreasing_by simp only [List.length_drop, List.length_cons]; omega

def decodeLossy (bytes : List UInt8) : List Char :=
  (decodePieces bytes).map fun c => c.getD replacement

def decode? (bytes : List UInt8) : Option (List Char) := (decodePieces bytes).mapM id

def utf8Bytes (cs : List Char) : List UInt8 := cs.flatMap String.utf8EncodeChar

def base64Digit (n : Nat) : Char :=
  if n < 26 then .ofNat ('A'.toNat + n)
  else if n < 52 then .ofNat ('a'.toNat + (n - 26))
  else if n < 62 then .ofNat ('0'.toNat + (n - 52))
  else if n = 62 then '+'
  else '/'

def base64Group (a b c : UInt8) : List Char :=
  let n := (a.toNat * 256 + b.toNat) * 256 + c.toNat
  [n >>> 18, (n >>> 12) % 64, (n >>> 6) % 64, n % 64].map base64Digit

def base64 : List UInt8 → List Char
  | a :: b :: c :: rest => base64Group a b c ++ base64 rest
  | [a, b] => (base64Group a b 0).take 3 ++ ['=']
  | [a] => (base64Group a 0 0).take 2 ++ ['=', '=']
  | [] => []

end GraphBrowser.Text
