import GraphBrowser.Client.Basic
import GraphBrowser.Text.Bytes
import GraphBrowser.Text.Basic

namespace GraphBrowser.Http

def eol : String := "\r\n"

def hostField (u : Url) : String :=
  u.host.text ++ match u.port with
    | none => ""
    | some port => ":" ++ toString port

def authorization (c : Url.Credentials) : String :=
  "Basic " ++ String.ofList (Text.base64 (Text.utf8Bytes (c.name ++ ":" ++ c.password).toList))

def requestText (r : Request) : String :=
  "GET " ++ r.target ++ " HTTP/1.1" ++ eol ++
    (match r.credentials with
      | none => ""
      | some c => "authorization: " ++ authorization c ++ eol) ++
    "user-agent: " ++ r.userAgent ++ eol ++
    "accept: */*" ++ eol ++
    "host: " ++ hostField r.url ++ eol ++
    "connection: close" ++ eol ++ eol

def cr : UInt8 := 13

def lf : UInt8 := 10

def cutLine? : List UInt8 → Option (List UInt8 × List UInt8)
  | [] => none
  | b :: rest =>
    if b = lf then
      some ([], rest)
    else
      (cutLine? rest).map fun (line, after) =>
        (if b = cr ∧ rest.head? = some lf then line else b :: line, after)

/-- The lines up to an empty one, and the bytes after it. The bound is the number of bytes. -/
def cutHead? : Nat → List UInt8 → Option (List (List UInt8) × List UInt8)
  | 0, _ => none
  | n + 1, bytes =>
    match cutLine? bytes with
    | none => none
    | some ([], rest) => some ([], rest)
    | some (line, rest) => (cutHead? n rest).map fun (lines, body) => (line :: lines, body)

def chars (line : List UInt8) : List Char := line.map fun b => .ofNat b.toNat

def status? (line : List UInt8) : Option Nat :=
  match Text.pieces ' ' (chars line) with
  | version :: code :: _ =>
    if "HTTP/1.".toList.isPrefixOf version && code.length == 3 then Text.ofDigits? 10 code else none
  | _ => none

def field? (name : String) (lines : List (List UInt8)) : Option String :=
  lines.findSome? fun line =>
    let (key, value) := Text.cut ':' (chars line)
    if key.map Char.toLower = name.toList then some (Text.trim (String.ofList value)) else none

/-- The bytes of a body sent in chunks; `none` if it breaks off. The bound is the number of
bytes. -/
def unchunk? : Nat → List UInt8 → Option (List UInt8)
  | 0, _ => none
  | n + 1, bytes => do
    let (line, rest) ← cutLine? bytes
    let digits := (chars line).takeWhile fun c => c != ';' && c != ' '
    let size ← if digits.isEmpty then none else Text.ofDigits? 16 digits
    if size = 0 then
      some []
    else if rest.length < size then
      none
    else
      let (_, next) ← cutLine? (rest.drop size)
      return rest.take size ++ (← unchunk? n next)

/-- The body of a response, by its header; without a length it ends with the connection. -/
def body? (header : List (List UInt8)) (bytes : List UInt8) : Option (List UInt8) :=
  if field? "transfer-encoding" header = some "chunked" then
    unchunk? (bytes.length + 1) bytes
  else
    match field? "content-length" header with
    | none => some bytes
    | some length =>
      match Text.ofDigits? 10 length.toList with
      | none => none
      | some n => if bytes.length < n then none else some (bytes.take n)

def reply (bytes : List UInt8) : Reply :=
  match cutHead? (bytes.length + 1) bytes with
  | some (line :: header, rest) =>
    match status? line with
    | none => .fault .noConnection
    | some status =>
      if Status.hasNoBody status then
        .received status []
      else
        match body? header rest with
        | none => .fault .truncated
        | some body => .received status body
  | _ => .fault .noConnection

end GraphBrowser.Http
