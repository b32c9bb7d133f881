import GraphBrowser.Json.Number

namespace GraphBrowser.Json

inductive Value where
  | null
  | bool (b : Bool)
  | number (n : Number)
  | string (s : String)
  | array (items : List Value)
  | object (members : List (String × Value))
  deriving Repr, Inhabited, BEq

def insertMember (key : String) (value : Value) : List (String × Value) → List (String × Value)
  | [] => [(key, value)]
  | (k, v) :: rest =>
    if key < k then (key, value) :: (k, v) :: rest
    else if key = k then (key, value) :: rest
    else (k, v) :: insertMember key value rest

/-- Members in ascending order of keys; of equal keys the last one counts. -/
def sortMembers (members : List (String × Value)) : List (String × Value) :=
  members.foldl (fun sorted (key, value) => insertMember key value sorted) []

def Value.get? (key : String) : Value → Option Value
  | .object members => (members.find? fun (k, _) => k == key).map (·.2)
  | _ => none

def Value.string? : Value → Option String
  | .string s => some s
  | _ => none

def controlDigits (n : Nat) : List Char :=
  [Nat.digitChar (n / 16), Nat.digitChar (n % 16)]

def escapedChar (c : Char) : List Char :=
  if c = '"' then ['\\', '"']
  else if c = '\\' then ['\\', '\\']
  else if c = '\x08' then ['\\', 'b']
  else if c = '\t' then ['\\', 't']
  else if c = '\n' then ['\\', 'n']
  else if c = '\x0c' then ['\\', 'f']
  else if c = '\r' then ['\\', 'r']
  else if c.toNat < 0x20 then '\\' :: 'u' :: '0' :: '0' :: controlDigits c.toNat
  else [c]

def printString (s : String) : List Char :=
  '"' :: (s.toList.flatMap escapedChar ++ ['"'])

mutual

def Value.print : Value → List Char
  | .null => ['n', 'u', 'l', 'l']
  | .bool true => ['t', 'r', 'u', 'e']
  | .bool false => ['f', 'a', 'l', 's', 'e']
  | .number n => n.text
  | .string s => printString s
  | .array items => '[' :: printItems items
  | .object members => '\x7b' :: printMembers members

def printItems : List Value → List Char
  | [] => [']']
  | [x] => x.print ++ [']']
  | x :: y :: rest => x.print ++ ',' :: printItems (y :: rest)

def printMembers : List (String × Value) → List Char
  | [] => ['\x7d']
  | [(k, v)] => printString k ++ ':' :: (v.print ++ ['\x7d'])
  | (k, v) :: m :: rest => printString k ++ ':' :: (v.print ++ ',' :: printMembers (m :: rest))

end

def Value.text (v : Value) : String := String.ofList v.print

end GraphBrowser.Json
