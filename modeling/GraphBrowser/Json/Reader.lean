import GraphBrowser.Json.Token
import GraphBrowser.Json.Value
/-!
Reading JSON values, lists and members. Every reader of something that can contain a bracket is
built for a number of levels that may still be opened; opening one more is refused.
-/
namespace GraphBrowser.Json

def maxDepth : Nat := 127

/-- Go to the next item of a list: `none` at the closing bracket, which is not consumed, or the text
at which the item starts. -/
def nextItem (first : Bool) (cs : List Char) : Except DecodeError (Option (List Char)) :=
  match skipSpace cs with
  | [] => .error (.eof .list)
  | ']' :: _ => .ok none
  | c :: rest =>
    if first then
      .ok (some (c :: rest))
    else if c = ',' then
      match skipSpace rest with
      | [] => .error (.eof .value)
      | ']' :: _ => .error .trailingComma
      | next => .ok (some next)
    else
      .error .expectedCommaOrBracket

def closeList (cs : List Char) : Except DecodeError (List Char) :=
  match skipSpace cs with
  | [] => .error (.eof .list)
  | ']' :: rest => .ok rest
  | ',' :: rest =>
    match skipSpace rest with
    | ']' :: _ => .error .trailingComma
    | _ => .error .trailingCharacters
  | _ => .error .trailingCharacters

/-- Go to the next member of an object: `none` at the closing brace, which is not consumed, or the
key and the text after it. -/
def nextKey (first : Bool) (cs : List Char) :
    Except DecodeError (Option (String × List Char)) :=
  match skipSpace cs with
  | [] => .error (.eof .object)
  | '\x7d' :: _ => .ok none
  | c :: rest =>
    if first then
      if c = '"' then (readString rest).map some else .error .keyNotString
    else if c = ',' then
      match skipSpace rest with
      | [] => .error (.eof .value)
      | '"' :: rest => (readString rest).map some
      | '\x7d' :: _ => .error .trailingComma
      | _ => .error .keyNotString
    else
      .error .expectedCommaOrBrace

def readColon (cs : List Char) : Except DecodeError (List Char) :=
  match skipSpace cs with
  | [] => .error (.eof .object)
  | ':' :: rest => .ok rest
  | _ => .error .expectedColon

def closeObject (cs : List Char) : List Char := (skipSpace cs).tail

/-- Read the items of a list up to its closing bracket. The bound is the length of the text: each
item but the first follows a comma, so it is never used up. -/
def itemsWithin (item : Reader α) : Nat → Bool → Reader (List α)
  | 0, _, _ => .error (.eof .list)
  | n + 1, first, cs => do
    match ← nextItem first cs with
    | none => return ([], ← closeList cs)
    | some cs =>
      let (x, cs) ← item cs
      let (xs, cs) ← itemsWithin item n false cs
      return (x :: xs, cs)

def items (item : Reader α) : Reader (List α) := fun cs =>
  itemsWithin item (cs.length + 1) true cs

def membersWithin (value : Reader α) : Nat → Bool → Reader (List (String × α))
  | 0, _, _ => .error (.eof .object)
  | n + 1, first, cs => do
    match ← nextKey first cs with
    | none => return ([], closeObject cs)
    | some (key, cs) =>
      let (x, cs) ← value (← readColon cs)
      let (xs, cs) ← membersWithin value n false cs
      return ((key, x) :: xs, cs)

def members (value : Reader α) : Reader (List (String × α)) := fun cs =>
  membersWithin value (cs.length + 1) true cs

def readScalar : Reader Value := fun cs =>
  match cs with
  | [] => .error (.eof .value)
  | 'n' :: rest => (readWord ['u', 'l', 'l'] rest).map fun rest => (.null, rest)
  | 't' :: rest => (readWord ['r', 'u', 'e'] rest).map fun rest => (.bool true, rest)
  | 'f' :: rest => (readWord ['a', 'l', 's', 'e'] rest).map fun rest => (.bool false, rest)
  | '"' :: rest => (readString rest).map fun (s, rest) => (.string s, rest)
  | c :: _ =>
    if c = '-' || isDigit c then
      (readNumber cs).map fun (n, rest) => (.number n, rest)
    else
      .error .expectedValue

def readValue (depth : Nat) : Reader Value := fun cs =>
  match skipSpace cs with
  | '[' :: rest =>
    match depth with
    | 0 => .error .nestingTooDeep
    | depth + 1 => (items (readValue depth) rest).map fun (xs, rest) => (.array xs, rest)
  | '\x7b' :: rest =>
    match depth with
    | 0 => .error .nestingTooDeep
    | depth + 1 =>
      (members (readValue depth) rest).map fun (ms, rest) => (.object (sortMembers ms), rest)
  | cs => readScalar cs

/-- What stands in the place of a value of another kind. A malformed one is refused for its own
fault. -/
def readFound (cs : List Char) : Except DecodeError Found :=
  match cs with
  | '[' :: _ => .ok .sequence
  | '\x7b' :: _ => .ok .map
  | _ =>
    match readScalar cs with
    | .error e => .error e
    | .ok (.bool b, _) => .ok (.boolean b)
    | .ok (.number n, _) => .ok (.number n)
    | .ok (.string s, _) => .ok (.string s)
    | .ok _ => .ok .null

def mismatch (expected : Expected) (cs : List Char) : DecodeError :=
  match readFound cs with
  | .error e => e
  | .ok found => .wrongKind found expected

def stringReader : Reader String := fun cs =>
  match skipSpace cs with
  | '"' :: rest => readString rest
  | cs => .error (mismatch .string cs)

def boolReader : Reader Bool := fun cs =>
  match skipSpace cs with
  | 't' :: rest => (readWord ['r', 'u', 'e'] rest).map fun rest => (true, rest)
  | 'f' :: rest => (readWord ['a', 'l', 's', 'e'] rest).map fun rest => (false, rest)
  | cs => .error (mismatch .boolean cs)

def natReader (limit : Nat) (expected : Expected) : Reader Nat := fun cs =>
  let cs := skipSpace cs
  match readScalar cs with
  | .ok (.number (.int n), rest) =>
    if 0 ≤ n ∧ n < limit then .ok (n.toNat, rest) else .error (.outOfRange n expected)
  | _ => .error (mismatch expected cs)

def word32Reader : Reader UInt32 := fun cs =>
  (natReader UInt32.size .word32 cs).map fun (n, rest) => (.ofNat n, rest)

def word64Reader : Reader UInt64 := fun cs =>
  (natReader UInt64.size .word64 cs).map fun (n, rest) => (.ofNat n, rest)

/-- Read a list; without an item reader no bracket may be opened. -/
def listReader (item : Option (Reader α)) : Reader (List α) := fun cs =>
  match skipSpace cs with
  | '[' :: rest =>
    match item with
    | none => .error .nestingTooDeep
    | some item => items item rest
  | cs => .error (mismatch .sequence cs)

/-- Read the members of an object in the order of the text; without a value reader no brace may be
opened. -/
def mapReader (value : Option (Reader α)) : Reader (List (String × α)) := fun cs =>
  match skipSpace cs with
  | '\x7b' :: rest =>
    match value with
    | none => .error .nestingTooDeep
    | some value => members value rest
  | cs => .error (mismatch .map cs)

def readText (reader : Reader α) (s : String) : Except DecodeError α := do
  let (x, rest) ← reader s.toList
  match skipSpace rest with
  | [] => return x
  | _ => .error .trailingCharacters

def parse (s : String) : Except DecodeError Value := readText (readValue maxDepth) s

end GraphBrowser.Json
