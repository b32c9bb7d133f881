import GraphBrowser.Json.Error
import GraphBrowser.Text.Basic

namespace GraphBrowser.Json

/-- A reader either refuses the text or gives a value and the text after it. -/
abbrev Reader (α : Type) := List Char → Except DecodeError (α × List Char)

def isSpace (c : Char) : Bool := c = ' ' || c = '\t' || c = '\n' || c = '\r'

def skipSpace (cs : List Char) : List Char := cs.dropWhile isSpace

def readWord : List Char → List Char → Except DecodeError (List Char)
  | [], cs => .ok cs
  | _ :: _, [] => .error (.eof .value)
  | w :: ws, c :: cs => if c = w then readWord ws cs else .error .expectedIdent

def hex4? (a b c d : Char) : Option Nat := do
  let high := (← Text.digitValue? a) * 16 + (← Text.digitValue? b)
  let low := (← Text.digitValue? c) * 16 + (← Text.digitValue? d)
  return high * 256 + low

/-- Why the digits of an escape are refused: the text ends before it holds four more bytes, or there
are other characters in their place. -/
def hexError (cs : List Char) : DecodeError :=
  if cs.foldl (fun n c => n + c.utf8Size) 0 < 4 then .eof .string else .invalidEscape

def shortEscape? (c : Char) : Option Char :=
  if c = '"' then some '"'
  else if c = '\\' then some '\\'
  else if c = '/' then some '/'
  else if c = 'b' then some '\x08'
  else if c = 'f' then some '\x0c'
  else if c = 'n' then some '\n'
  else if c = 'r' then some '\r'
  else if c = 't' then some '\t'
  else none

def isHighSurrogate (n : Nat) : Bool := 0xd800 ≤ n && n ≤ 0xdbff

def isLowSurrogate (n : Nat) : Bool := 0xdc00 ≤ n && n ≤ 0xdfff

def surrogatePair (high low : Nat) : Char :=
  Char.ofNat (0x10000 + (high - 0xd800) * 0x400 + (low - 0xdc00))

def consChar (c : Char) (r : Except DecodeError (List Char × List Char)) :
    Except DecodeError (List Char × List Char) :=
  r.map fun (s, rest) => (c :: s, rest)

def readChars : List Char → Except DecodeError (List Char × List Char)
  | [] => .error (.eof .string)
  | '\\' :: 'u' :: a :: b :: c :: d :: rest =>
    match hex4? a b c d with
    | none => .error (hexError (a :: b :: c :: d :: rest))
    | some n =>
      if isLowSurrogate n then
        .error .loneSurrogate
      else if isHighSurrogate n then
        match rest with
        | '\\' :: 'u' :: e :: f :: g :: h :: rest =>
          match hex4? e f g h with
          | none => .error (hexError (e :: f :: g :: h :: rest))
          | some m =>
            if isLowSurrogate m then
              consChar (surrogatePair n m) (readChars rest)
            else
              .error .loneSurrogate
        | '\\' :: 'u' :: rest => .error (hexError rest)
        | ['\\'] => .error (.eof .string)
        | [] => .error (.eof .string)
        | _ => .error .unfinishedSurrogatePair
      else
        consChar (Char.ofNat n) (readChars rest)
  | '\\' :: 'u' :: rest => .error (hexError rest)
  | ['\\'] => .error (.eof .string)
  | '\\' :: c :: rest =>
    match shortEscape? c with
    | none => .error .invalidEscape
    | some e => consChar e (readChars rest)
  | c :: rest =>
    if c = '"' then
      .ok ([], rest)
    else if c.toNat < 0x20 then
      .error .controlCharacter
    else
      consChar c (readChars rest)

def readString : Reader String := fun cs =>
  (readChars cs).map fun (s, rest) => (String.ofList s, rest)

def isDigit (c : Char) : Bool := '0' ≤ c && c ≤ '9'

def digitValue (c : Char) : Nat := c.toNat - '0'.toNat

def readDigits (cs : List Char) : List Nat × List Char :=
  ((cs.takeWhile isDigit).map digitValue, cs.dropWhile isDigit)

def readDigits1 (cs : List Char) : Except DecodeError (List Nat × List Char) :=
  match cs with
  | [] => .error (.eof .value)
  | c :: _ => if isDigit c then .ok (readDigits cs) else .error .invalidNumber

def readWhole (cs : List Char) : Except DecodeError (List Nat × List Char) :=
  match cs with
  | '0' :: c :: _ => if isDigit c then .error .invalidNumber else .ok ([0], cs.tail)
  | _ => readDigits1 cs

def readFraction (cs : List Char) : Except DecodeError (Option (List Nat) × List Char) :=
  match cs with
  | '.' :: rest => (readDigits1 rest).map fun (ds, rest) => (some ds, rest)
  | _ => .ok (none, cs)

def readExponent (cs : List Char) : Except DecodeError (Option (Bool × List Nat) × List Char) :=
  let digits (negative : Bool) (rest : List Char) :=
    (readDigits1 rest).map fun (ds, rest) => (some (negative, ds), rest)
  match cs with
  | c :: rest =>
    if c = 'e' || c = 'E' then
      match rest with
      | '+' :: rest => digits false rest
      | '-' :: rest => digits true rest
      | _ => digits false rest
    else
      .ok (none, cs)
  | [] => .ok (none, [])

def readSpelling : Reader Spelling := fun cs => do
  let (negative, cs) := match cs with
    | '-' :: rest => (true, rest)
    | _ => (false, cs)
  let (whole, cs) ← readWhole cs
  let (fraction, cs) ← readFraction cs
  let (exponent, cs) ← readExponent cs
  return (⟨negative, whole, fraction, exponent⟩, cs)

def readNumber : Reader Number := fun cs => do
  let (spelling, rest) ← readSpelling cs
  match spelling.number? with
  | none => .error .numberOutOfRange
  | some n => return (n, rest)

end GraphBrowser.Json
