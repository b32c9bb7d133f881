import GraphBrowser.Json.Reader
import GraphBrowser.Json.Skip

namespace GraphBrowser.Json

/-- One field of a record that is read into a draft `σ`. A field that is not required may be left
out. -/
structure Field (σ : Type) where
  key : String
  required : Bool
  isSet : σ → Bool
  read : σ → Reader σ

/-- The fields of a record in their order, and what a complete draft stands for. -/
structure Shape (σ α : Type) where
  name : String
  start : σ
  fields : List (Field σ)
  finish : σ → Except DecodeError α

def Field.of (key : String) (required : Bool) (get : σ → Option β) (set : σ → β → σ)
    (reader : Reader β) : Field σ where
  key := key
  required := required
  isSet draft := (get draft).isSome
  read draft cs := (reader cs).map fun (x, rest) => (set draft x, rest)

def require (key : String) : Option α → Except DecodeError α
  | none => .error (.missingField key)
  | some x => .ok x

/-- Read the members of an object into a draft, up to its closing brace. The bound is the length of
the text, as for the members of a map. -/
def readFieldsWithin (fields : List (Field σ)) : Nat → Bool → σ → Reader σ
  | 0, _, _, _ => .error (.eof .object)
  | n + 1, first, draft, cs => do
    match ← nextKey first cs with
    | none => return (draft, closeObject cs)
    | some (key, cs) =>
      match fields.find? fun f => f.key == key with
      | none => readFieldsWithin fields n false draft (← skipValue (← readColon cs))
      | some field =>
        if field.isSet draft then
          .error (.duplicateField key)
        else
          let (draft, cs) ← field.read draft (← readColon cs)
          readFieldsWithin fields n false draft cs

/-- Read fields one after the other from a list; those that are not required may be absent at its
end. -/
def readInOrder (tooShort : Nat → DecodeError) :
    List (Field σ) → Nat → σ → Reader σ
  | [], _, draft, cs => .ok (draft, cs)
  | field :: fields, index, draft, cs => do
    match ← nextItem (index == 0) cs with
    | none =>
      if field.required then .error (tooShort index)
      else readInOrder tooShort fields (index + 1) draft cs
    | some cs =>
      let (draft, cs) ← field.read draft cs
      readInOrder tooShort fields (index + 1) draft cs

def Shape.readObject (shape : Shape σ α) : Reader α := fun cs => do
  let (draft, rest) ← readFieldsWithin shape.fields (cs.length + 1) true shape.start cs
  return (← shape.finish draft, rest)

def Shape.readList (shape : Shape σ α) : Reader α := fun cs => do
  let tooShort index := DecodeError.tooShort index shape.name shape.fields.length
  let (draft, rest) ← readInOrder tooShort shape.fields 0 shape.start cs
  let x ← shape.finish draft
  return (x, ← closeList rest)

def recordReader (name : String) (shape : Option (Shape σ α)) : Reader α := fun cs =>
  match skipSpace cs with
  | '\x7b' :: rest =>
    match shape with
    | none => .error .nestingTooDeep
    | some shape => shape.readObject rest
  | '[' :: rest =>
    match shape with
    | none => .error .nestingTooDeep
    | some shape => shape.readList rest
  | cs => .error (mismatch (.record name) cs)

end GraphBrowser.Json
