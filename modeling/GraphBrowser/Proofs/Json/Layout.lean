import GraphBrowser.Json.Value
import GraphBrowser.Proofs.Json.Token

namespace GraphBrowser.Json

mutual

inductive AnyValue : List Char → Prop
  | null : AnyValue ['n', 'u', 'l', 'l']
  | yes : AnyValue ['t', 'r', 'u', 'e']
  | no : AnyValue ['f', 'a', 'l', 's', 'e']
  | number {cs : List Char} : NumberText cs → AnyValue cs
  | string {cs : List Char} : RawChars cs → AnyValue ('"' :: cs)
  | emptyList {w : List Char} : Blank w → AnyValue ('[' :: (w ++ [']']))
  | list {w x cs : List Char} : Blank w → AnyValue x → AnyItems cs →
    AnyValue ('[' :: (w ++ (x ++ cs)))
  | emptyObject {w : List Char} : Blank w → AnyValue ('\x7b' :: (w ++ ['\x7d']))
  | object {w m cs : List Char} : Blank w → AnyMember m → AnyMembers cs →
    AnyValue ('\x7b' :: (w ++ (m ++ cs)))

inductive AnyItems : List Char → Prop
  | close {w : List Char} : Blank w → AnyItems (w ++ [']'])
  | comma {w w' x cs : List Char} : Blank w → Blank w' → AnyValue x → AnyItems cs →
    AnyItems (w ++ ',' :: (w' ++ (x ++ cs)))

inductive AnyMember : List Char → Prop
  | member {key w w' x : List Char} : RawChars key → Blank w → Blank w' → AnyValue x →
    AnyMember ('"' :: (key ++ (w ++ ':' :: (w' ++ x))))

inductive AnyMembers : List Char → Prop
  | close {w : List Char} : Blank w → AnyMembers (w ++ ['\x7d'])
  | comma {w w' m cs : List Char} : Blank w → Blank w' → AnyMember m → AnyMembers cs →
    AnyMembers (w ++ ',' :: (w' ++ (m ++ cs)))

end

/-- What a value or a member begins with: neither white space nor a closing bracket. -/
def Begins (cs : List Char) : Prop :=
  ∃ c rest, cs = c :: rest ∧ isSpace c = false ∧ c ≠ ']' ∧ c ≠ '\x7d'

theorem begins_cons {c : Char} (h : isSpace c = false) (hl : c ≠ ']') (ho : c ≠ '\x7d')
    (cs : List Char) : Begins (c :: cs) := ⟨c, cs, rfl, h, hl, ho⟩

theorem begins_number {cs : List Char} (h : NumberText cs) : Begins cs := by
  obtain ⟨c, t, rfl, hc⟩ := number_head h
  obtain ⟨hs, hne⟩ := number_char hc
  exact begins_cons hs (fun h => hne (by simp [h])) (fun h => hne (by simp [h])) t

theorem begins_any {cs : List Char} (h : AnyValue cs) : Begins cs := by
  cases h with
  | number hn => exact begins_number hn
  | _ => exact begins_cons (by decide) (by decide) (by decide) _

/-- The ways to write something: its texts, each with the number of brackets that are open at its
deepest place. -/
structure Writing where
  Has : Nat → List Char → Prop
  begins : ∀ {depth cs}, Has depth cs → Begins cs

/-- Items up to the closing bracket. The flag tells whether the opening bracket stands before them or
another item. -/
inductive Row (close : Char) : Bool → List Writing → Nat → List Char → Prop
  | close {first : Bool} {w : List Char} : Blank w → Row close first [] 0 (w ++ [close])
  | first {t : Writing} {ts : List Writing} {d e : Nat} {w x cs : List Char} : Blank w →
    t.Has d x → Row close false ts e cs → Row close true (t :: ts) (max d e) (w ++ (x ++ cs))
  | comma {t : Writing} {ts : List Writing} {d e : Nat} {w w' x cs : List Char} : Blank w →
    Blank w' → t.Has d x → Row close false ts e cs →
    Row close false (t :: ts) (max d e) (w ++ ',' :: (w' ++ (x ++ cs)))

namespace Writing

def word (cs : List Char) (h : Begins cs) : Writing where
  Has depth text := depth = 0 ∧ text = cs
  begins := by
    rintro _ _ ⟨_, rfl⟩
    exact h

def string (s : String) : Writing where
  Has depth text := depth = 0 ∧ StringText s text
  begins := by
    rintro _ _ ⟨_, body, _, rfl⟩
    exact begins_cons (by decide) (by decide) (by decide) body

def int (n : Int) : Writing := word (intText n) (begins_number (numberText_int n))

def bool : Bool → Writing
  | true => word ['t', 'r', 'u', 'e'] (begins_cons (by decide) (by decide) (by decide) _)
  | false => word ['f', 'a', 'l', 's', 'e'] (begins_cons (by decide) (by decide) (by decide) _)

def null : Writing :=
  word ['n', 'u', 'l', 'l'] (begins_cons (by decide) (by decide) (by decide) _)

def never : Writing where
  Has _ _ := False
  begins := False.elim

/-- Any JSON value. Its brackets do not count. -/
def foreign : Writing where
  Has depth text := depth = 0 ∧ AnyValue text
  begins := by
    rintro _ _ ⟨_, h⟩
    exact begins_any h

def list (ts : List Writing) : Writing where
  Has depth text := ∃ d body, Row ']' true ts d body ∧ depth = d + 1 ∧ text = '[' :: body
  begins := by
    rintro _ _ ⟨_, body, _, _, rfl⟩
    exact begins_cons (by decide) (by decide) (by decide) body

def object (ms : List Writing) : Writing where
  Has depth text := ∃ d body, Row '\x7d' true ms d body ∧ depth = d + 1 ∧ text = '\x7b' :: body
  begins := by
    rintro _ _ ⟨_, body, _, _, rfl⟩
    exact begins_cons (by decide) (by decide) (by decide) body

def member (key : String) (value : Writing) : Writing where
  Has depth text := ∃ k w w' x, CharsText key.toList k ∧ Blank w ∧ Blank w' ∧ value.Has depth x ∧
    text = '"' :: (k ++ (w ++ ':' :: (w' ++ x)))
  begins := by
    rintro _ _ ⟨k, w, w', x, _, _, _, _, rfl⟩
    exact begins_cons (by decide) (by decide) (by decide) _

/-- An object with the given members in any order. -/
def objectInAnyOrder (ms : List Writing) : Writing where
  Has depth text := ∃ ms', ms'.Perm ms ∧ (object ms').Has depth text
  begins := by
    rintro _ _ ⟨ms', _, h⟩
    exact (object ms').begins h

end Writing

/-- A field of a record: its key, whether it may be left out, and the ways to write its value. -/
structure Slot where
  key : String
  optional : Prop
  writing : Writing

/-- Members of an object: fields in their order, and foreign members anywhere among them. -/
inductive Arranged (keys : List String) : List Slot → List Writing → Prop
  | done : Arranged keys [] []
  | field {slot : Slot} {slots : List Slot} {ms : List Writing} : Arranged keys slots ms →
    Arranged keys (slot :: slots) (.member slot.key slot.writing :: ms)
  | foreign {key : String} {slots : List Slot} {ms : List Writing} : key ∉ keys →
    Arranged keys slots ms → Arranged keys slots (.member key .foreign :: ms)

/-- A record with the given fields: as an object with its fields in any order, of which only optional
ones are left out, or as a list of its fields in their own order, of which only optional ones at the
end are left out. -/
def Writing.record (slots : List Slot) : Writing where
  Has depth text :=
    (∃ present ms, (present.map Slot.key).Nodup ∧ (∀ slot ∈ present, slot ∈ slots) ∧
      (∀ slot ∈ slots, slot ∈ present ∨ slot.optional) ∧
      Arranged (slots.map Slot.key) present ms ∧ (object ms).Has depth text) ∨
    (∃ present absent, slots = present ++ absent ∧ (∀ slot ∈ absent, slot.optional) ∧
      (list (present.map Slot.writing)).Has depth text)
  begins := by
    rintro _ _ (⟨_, ms, _, _, _, _, h⟩ | ⟨present, _, _, _, h⟩)
    · exact (object ms).begins h
    · exact (list (present.map Slot.writing)).begins h

mutual

/-- The ways to write a value whose numbers are integers. -/
def Value.writing : Value → Writing
  | .null => .null
  | .bool b => .bool b
  | .number (.int n) => .int n
  | .number (.float _) => .never
  | .string s => .string s
  | .array xs => .list (itemWritings xs)
  | .object ms => .objectInAnyOrder (memberWritings ms)

def itemWritings : List Value → List Writing
  | [] => []
  | x :: xs => x.writing :: itemWritings xs

def memberWritings : List (String × Value) → List Writing
  | [] => []
  | (key, v) :: ms => .member key v.writing :: memberWritings ms

end

end GraphBrowser.Json
