import GraphBrowser.Text.Basic
import GraphBrowser.Url.Encoding

namespace GraphBrowser.Url

/-- A user as it stands in an address, percent-encoded. Both parts may be empty. -/
structure User where
  name : String
  password : String
  deriving DecidableEq, Repr

structure Credentials where
  name : String
  password : String
  deriving DecidableEq, Repr

namespace User

def nobody : User := ⟨"", ""⟩

def keep (c : Char) : Bool :=
  0x20 < c.toNat && c.toNat < 0x7f && !("\"#<>?\x60\x7b\x7d/:;=@[\\]^|".toList.contains c)

def ofText (cs : List Char) : User :=
  let (name, password) := Text.cut ':' cs
  ⟨String.ofList (percentEncode keep name), String.ofList (percentEncode keep password)⟩

def text (u : User) : String :=
  if u = nobody then ""
  else u.name ++ (if u.password.isEmpty then "" else ":" ++ u.password) ++ "@"

def decodePart? (s : String) : Option String :=
  (Text.decode? (percentDecode s.toList)).map String.ofList

/-- The credentials of a user. There are none without a readable name, and none if all that can be
read is empty; an unreadable password counts as empty. -/
def credentials? (u : User) : Option Credentials :=
  (decodePart? u.name).bind fun name =>
    let password := (decodePart? u.password).getD ""
    if name.isEmpty && password.isEmpty then none else some ⟨name, password⟩

end User

end GraphBrowser.Url
