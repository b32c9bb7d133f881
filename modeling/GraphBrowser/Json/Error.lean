import GraphBrowser.Json.Number
import GraphBrowser.Text.Visible

namespace GraphBrowser.Json

inductive Unfinished where
  | value
  | list
  | object
  | string
  deriving DecidableEq, Repr

inductive Found where
  | null
  | boolean (b : Bool)
  | number (n : Number)
  | string (s : String)
  | sequence
  | map
  deriving DecidableEq, Repr

inductive Expected where
  | string
  | boolean
  | word32
  | word64
  | sequence
  | map
  | record (name : String)
  deriving DecidableEq, Repr

inductive DecodeError where
  | eof (inside : Unfinished)
  | expectedValue
  | expectedIdent
  | expectedColon
  | expectedCommaOrBracket
  | expectedCommaOrBrace
  | keyNotString
  | trailingComma
  | trailingCharacters
  | invalidNumber
  | numberOutOfRange
  | invalidEscape
  | loneSurrogate
  | unfinishedSurrogatePair
  | controlCharacter
  | nestingTooDeep
  | wrongKind (found : Found) (expected : Expected)
  | outOfRange (n : Int) (expected : Expected)
  | tooShort (length : Nat) (record : String) (fields : Nat)
  | missingField (key : String)
  | duplicateField (key : String)
  deriving DecidableEq, Repr

def Unfinished.phrase : Unfinished → String
  | .value => "a value"
  | .list => "a list"
  | .object => "an object"
  | .string => "a string"

def Found.phrase : Found → String
  | .null => "null"
  | .boolean b => "boolean `" ++ (if b then "true" else "false") ++ "`"
  | .number (.int n) => "integer `" ++ String.ofList (intText n) ++ "`"
  | .number (.float x) => "floating point `" ++ String.ofList (floatText x) ++ "`"
  | .string s => "string " ++ Text.quoted s
  | .sequence => "sequence"
  | .map => "map"

def Expected.phrase : Expected → String
  | .string => "a string"
  | .boolean => "a boolean"
  | .word32 => "u32"
  | .word64 => "u64"
  | .sequence => "a sequence"
  | .map => "a map"
  | .record name => "struct " ++ name

def DecodeError.message : DecodeError → String
  | .eof inside => "EOF while parsing " ++ inside.phrase
  | .expectedValue => "expected value"
  | .expectedIdent => "expected ident"
  | .expectedColon => "expected `:`"
  | .expectedCommaOrBracket => "expected `,` or `]`"
  | .expectedCommaOrBrace => "expected `,` or `\x7d`"
  | .keyNotString => "key must be a string"
  | .trailingComma => "trailing comma"
  | .trailingCharacters => "trailing characters"
  | .invalidNumber => "invalid number"
  | .numberOutOfRange => "number out of range"
  | .invalidEscape => "invalid escape"
  | .loneSurrogate => "lone leading surrogate in hex escape"
  | .unfinishedSurrogatePair => "unexpected end of hex escape"
  | .controlCharacter => "control character (\\u0000-\\u001F) found while parsing a string"
  | .nestingTooDeep => "recursion limit exceeded"
  | .wrongKind found expected =>
    "invalid type: " ++ found.phrase ++ ", expected " ++ expected.phrase
  | .outOfRange n expected =>
    "invalid value: integer `" ++ String.ofList (intText n) ++ "`, expected " ++ expected.phrase
  | .tooShort length record fields =>
    "invalid length " ++ toString length ++ ", expected struct " ++ record ++ " with " ++
      toString fields ++ (if fields = 1 then " element" else " elements")
  | .missingField key => "missing field `" ++ key ++ "`"
  | .duplicateField key => "duplicate field `" ++ key ++ "`"

end GraphBrowser.Json
