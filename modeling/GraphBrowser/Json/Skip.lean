import GraphBrowser.Json.Token
/-!
Passing over a value that nobody wants. Its syntax is checked, but strings are not decoded, numbers
have no range, and brackets nest without a limit: the open ones are kept in a list.
-/
namespace GraphBrowser.Json

inductive Bracket where
  | list
  | object
  deriving DecidableEq, Repr

def skipChars : List Char → Except DecodeError (List Char)
  | [] => .error (.eof .string)
  | '\\' :: 'u' :: a :: b :: c :: d :: rest =>
    if (hex4? a b c d).isSome then skipChars rest else .error (hexError (a :: b :: c :: d :: rest))
  | '\\' :: 'u' :: rest => .error (hexError rest)
  | ['\\'] => .error (.eof .string)
  | '\\' :: c :: rest => if (shortEscape? c).isSome then skipChars rest else .error .invalidEscape
  | c :: rest =>
    if c = '"' then .ok rest
    else if c.toNat < 0x20 then .error .controlCharacter
    else skipChars rest

def skipNumber (cs : List Char) : Except DecodeError (List Char) :=
  match readSpelling cs with
  | .ok (_, rest) => .ok rest
  | .error _ => .error .invalidNumber

def skipScalar (cs : List Char) : Except DecodeError (List Char) :=
  match cs with
  | [] => .error (.eof .value)
  | 'n' :: rest => readWord ['u', 'l', 'l'] rest
  | 't' :: rest => readWord ['r', 'u', 'e'] rest
  | 'f' :: rest => readWord ['a', 'l', 's', 'e'] rest
  | '"' :: rest => skipChars rest
  | c :: _ => if c = '-' || isDigit c then skipNumber cs else .error .expectedValue

def skipKey (cs : List Char) : Except DecodeError (List Char) :=
  match skipSpace cs with
  | [] => .error (.eof .object)
  | '"' :: rest => do
    match skipSpace (← skipChars rest) with
    | [] => .error (.eof .object)
    | ':' :: rest => .ok rest
    | _ => .error .expectedColon
  | _ => .error .keyNotString

/-- Pass over what is left inside the open brackets, innermost first: `after` tells whether the text
stands after a value or before one. Each step consumes a character, except the last one after the
outermost value; so one more than the length of the text bounds the steps. -/
def skipWithin : Nat → (after : Bool) → List Bracket → List Char → Except DecodeError (List Char)
  | 0, _, _, _ => .error (.eof .value)
  | n + 1, false, opened, cs =>
    match skipSpace cs with
    | '[' :: rest =>
      match skipSpace rest with
      | [] => .error (.eof .list)
      | ']' :: rest => skipWithin n true opened rest
      | rest => skipWithin n false (.list :: opened) rest
    | '\x7b' :: rest =>
      match skipSpace rest with
      | [] => .error (.eof .object)
      | '\x7d' :: rest => skipWithin n true opened rest
      | rest => do skipWithin n false (.object :: opened) (← skipKey rest)
    | cs => do skipWithin n true opened (← skipScalar cs)
  | _ + 1, true, [], cs => .ok cs
  | n + 1, true, .list :: opened, cs =>
    match skipSpace cs with
    | [] => .error (.eof .list)
    | ']' :: rest => skipWithin n true opened rest
    | ',' :: rest => skipWithin n false (.list :: opened) rest
    | _ => .error .expectedCommaOrBracket
  | n + 1, true, .object :: opened, cs =>
    match skipSpace cs with
    | [] => .error (.eof .object)
    | '\x7d' :: rest => skipWithin n true opened rest
    | ',' :: rest => do skipWithin n false (.object :: opened) (← skipKey rest)
    | _ => .error .expectedCommaOrBrace

def skipValue (cs : List Char) : Except DecodeError (List Char) :=
  skipWithin (cs.length + 1) false [] cs

end GraphBrowser.Json
