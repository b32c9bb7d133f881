import GraphBrowser.Text.Basic
import GraphBrowser.Text.Bytes

namespace GraphBrowser.Url

def upperDigit (n : Nat) : Char := (Nat.digitChar n).toUpper

def encodeByte (b : UInt8) : List Char :=
  ['%', upperDigit (b.toNat / 16), upperDigit (b.toNat % 16)]

def percentEncode (keep : Char → Bool) (cs : List Char) : List Char :=
  cs.flatMap fun c =>
    if c.toNat < 0x80 && keep c then [c] else (String.utf8EncodeChar c).flatMap encodeByte

/-- The bytes of a text in which encoded bytes are decoded. A percent sign without two digits stands
for itself. -/
def percentDecode : List Char → List UInt8
  | [] => []
  | '%' :: a :: b :: rest =>
    match Text.digitValue? a, Text.digitValue? b with
    | some m, some n => .ofNat (m * 16 + n) :: percentDecode rest
    | _, _ => '%'.toUInt8 :: percentDecode (a :: b :: rest)
  | c :: rest => String.utf8EncodeChar c ++ percentDecode rest

end GraphBrowser.Url

namespace GraphBrowser.Url.Form

abbrev Parameters := List (String × String)

def isPlain (c : Char) : Bool :=
  c.isAlphanum || c = '*' || c = '-' || c = '.' || c = '_'

def encodeChar (c : Char) : List Char :=
  if c = ' ' then ['+'] else if isPlain c then [c] else (String.utf8EncodeChar c).flatMap encodeByte

def encodeText (s : String) : List Char := s.toList.flatMap encodeChar

def encodePair (p : String × String) : List Char := encodeText p.1 ++ '=' :: encodeText p.2

def encode (ps : Parameters) : List Char := ['&'].intercalate (ps.map encodePair)

def decodeText (cs : List Char) : String :=
  let blanks := cs.map fun c => if c = '+' then ' ' else c
  String.ofList (Text.decodeLossy (percentDecode blanks))

def decodePair (cs : List Char) : String × String :=
  let (name, value) := Text.cut '=' cs
  (decodeText name, decodeText value)

def decode (cs : List Char) : Parameters :=
  ((Text.pieces '&' cs).filter fun piece => !piece.isEmpty).map decodePair

end GraphBrowser.Url.Form
