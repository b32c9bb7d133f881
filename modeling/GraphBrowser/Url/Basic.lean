import GraphBrowser.Url.Encoding
import GraphBrowser.Url.Host
import GraphBrowser.Url.User

namespace GraphBrowser

/-- A URL of a web service. The path is kept as its segments, the port only if it is not the usual
one. -/
structure Url where
  secure : Bool
  user : Url.User
  host : Url.Host
  port : Option Nat
  path : List String
  query : Option String
  fragment : Option String
  deriving DecidableEq, Repr

namespace Url

inductive Parsed where
  | web (url : Url)
  | other (scheme : String)
  deriving DecidableEq, Repr

def clean (cs : List Char) : List Char :=
  let trimStart (cs : List Char) := cs.dropWhile fun c => c.toNat ≤ 0x20
  (trimStart (trimStart cs).reverse).reverse.filter fun c => c != '\t' && c != '\n' && c != '\r'

def isSchemeChar (c : Char) : Bool := c.isAlphanum || c = '+' || c = '-' || c = '.'

def cutScheme? (cs : List Char) : Option (String × List Char) :=
  let name := cs.takeWhile isSchemeChar
  match name, cs.dropWhile isSchemeChar with
  | c :: _, ':' :: rest =>
    if c.isAlpha then some (String.ofList (name.map Char.toLower), rest) else none
  | _, _ => none

def endsAuthority (backslash : Bool) (c : Char) : Bool :=
  c = '/' || c = '?' || c = '#' || (backslash && c = '\\')

/-- The user before the last at sign, and the text behind it. An empty user must be followed by a
host. -/
def cutUser (backslash : Bool) (cs : List Char) : Except ParseError (User × List Char) :=
  let authority := cs.takeWhile fun c => !endsAuthority backslash c
  let after := cs.dropWhile fun c => !endsAuthority backslash c
  if authority.contains '@' then
    let host := Text.afterLast '@' authority
    let user := authority.take (authority.length - host.length - 1)
    if user.isEmpty && host.isEmpty && !after.isEmpty then
      .error .emptyHost
    else
      .ok (.ofText user, host ++ after)
  else
    .ok (.nobody, cs)

def cutHost (backslash : Bool) : (bracketed : Bool) → List Char → List Char × List Char
  | _, [] => ([], [])
  | bracketed, c :: cs =>
    if (c = ':' && !bracketed) || endsAuthority backslash c then
      ([], c :: cs)
    else
      let bracketed := if c = '[' then true else if c = ']' then false else bracketed
      let (host, rest) := cutHost backslash bracketed cs
      (c :: host, rest)

def cutPort (cs : List Char) : Except ParseError (Option Nat × List Char) :=
  match cs with
  | ':' :: rest =>
    let digits := rest.takeWhile Char.isDigit
    let after := rest.dropWhile Char.isDigit
    match Text.ofDigits? 10 digits with
    | some n =>
      if 65535 < n || after.head?.any (fun c => !endsAuthority true c) then .error .invalidPort
      else .ok (if digits.isEmpty then none else some n, after)
    | none => .error .invalidPort
  | _ => .ok (none, cs)

def keepInPath (c : Char) : Bool :=
  0x20 < c.toNat && c.toNat < 0x7f && !("\"<>\x60#?\x7b\x7d".toList.contains c)

def keepInQuery (c : Char) : Bool :=
  0x20 < c.toNat && c.toNat < 0x7f && !("\"#<>'".toList.contains c)

def keepInFragment (c : Char) : Bool :=
  0x20 < c.toNat && c.toNat < 0x7f && !("\"<>\x60".toList.contains c)

def encoded (keep : Char → Bool) (cs : List Char) : String :=
  String.ofList (percentEncode keep cs)

def plainDots (segment : List Char) : List Char :=
  match segment with
  | '%' :: '2' :: c :: rest => if c = 'e' || c = 'E' then '.' :: plainDots rest else segment
  | c :: rest => c :: plainDots rest
  | [] => []

def isSingleDot (segment : List Char) : Bool := plainDots segment = ['.']

def isDoubleDot (segment : List Char) : Bool := plainDots segment = ['.', '.']

def isDriveLetter (segment : String) : Bool :=
  match segment.toList with
  | [c, d] => c.isAlpha && (d = ':' || d = '|')
  | _ => false

def stepOut (segments : List String) : List String :=
  if segments.getLast?.any isDriveLetter then segments else segments.dropLast

/-- Follow segments from a path. A dot segment at the end leaves an empty segment. -/
def follow (path : List String) : List (List Char) → List String
  | [] => path
  | segment :: rest =>
    if isDoubleDot segment then
      follow (stepOut path ++ if rest.isEmpty then [""] else []) rest
    else if isSingleDot segment then
      follow (path ++ if rest.isEmpty then [""] else []) rest
    else
      follow (path ++ [encoded keepInPath segment]) rest

def pathOf (cs : List Char) : List String :=
  let slashed := cs.map fun c => if c = '\\' then '/' else c
  match slashed with
  | '/' :: rest => follow [] (Text.pieces '/' rest)
  | _ => follow [] (Text.pieces '/' slashed)

/-- Read a web address behind the colon of its scheme; any number of slashes comes first. -/
def parseWeb (secure : Bool) (cs : List Char) : Except ParseError Url := do
  let cs := cs.dropWhile fun c => c = '/' || c = '\\'
  let (user, cs) ← cutUser true cs
  let (host, cs) := cutHost true false cs
  if host.isEmpty then
    .error .emptyHost
  else
    let host ← Host.parse host
    let (port, cs) ← cutPort cs
    let usual := if secure then 443 else 80
    let path := cs.takeWhile fun c => c != '?' && c != '#'
    let cs := cs.dropWhile fun c => c != '?' && c != '#'
    let (query, fragment) := Text.cut '#' cs
    return {
      secure := secure
      user := user
      host := host
      port := port.filter (· ≠ usual)
      path := pathOf path
      query := if query.isEmpty then none else some (encoded keepInQuery query.tail)
      fragment := if cs.contains '#' then some (encoded keepInFragment fragment) else none }

def checkOther (cs : List Char) : Except ParseError Unit :=
  match cs with
  | '/' :: '/' :: rest => do
    let (user, rest) ← cutUser false rest
    let (host, rest) := cutHost false false rest
    Host.checkOpaque host
    if host.isEmpty && (user ≠ .nobody || rest.head? = some ':') then
      .error .emptyHost
    else
      discard (cutPort rest)
  | _ => .ok ()

def checkFile (cs : List Char) : Except ParseError Unit :=
  let isSlash (c : Char) := c = '/' || c = '\\'
  match cs with
  | a :: b :: rest =>
    if isSlash a && isSlash b then
      let host := rest.takeWhile fun c => !endsAuthority true c
      if host.isEmpty || isDriveLetter (String.ofList host) then .ok ()
      else discard (Host.parse host)
    else
      .ok ()
  | _ => .ok ()

def parse (s : String) : Except ParseError Parsed :=
  match cutScheme? (clean s.toList) with
  | none => .error .noScheme
  | some (scheme, rest) =>
    if scheme = "http" then (parseWeb false rest).map .web
    else if scheme = "https" then (parseWeb true rest).map .web
    else if scheme = "ftp" || scheme = "ws" || scheme = "wss" then
      (parseWeb false rest).map fun _ => .other scheme
    else if scheme = "file" then (checkFile rest).map fun _ => .other scheme
    else (checkOther rest).map fun _ => .other scheme

def scheme (u : Url) : String := if u.secure then "https" else "http"

def target (u : Url) : String :=
  String.join (u.path.map fun segment => "/" ++ segment) ++
    match u.query with
    | none => ""
    | some query => "?" ++ query

def text (u : Url) : String :=
  u.scheme ++ "://" ++ u.user.text ++ u.host.text ++
    (match u.port with
      | none => ""
      | some port => ":" ++ toString port) ++
    u.target ++
    match u.fragment with
    | none => ""
    | some fragment => "#" ++ fragment

/-- Append parameters to the query. Without parameters an empty query is dropped. -/
def withParameters (u : Url) (ps : Form.Parameters) : Url :=
  let query := u.query.getD ""
  let query :=
    if ps.isEmpty then query
    else (if query.isEmpty then "" else query ++ "&") ++ String.ofList (Form.encode ps)
  { u with query := if query.isEmpty then none else some query }

/-- Drop the user if there are credentials to be told to the server in its place. -/
def withoutCredentials (u : Url) : Url :=
  if u.user.credentials?.isSome then { u with user := .nobody } else u

def maxLength : Nat := 65534

/-- Whether a request can be made for an address. A host may hold a few characters that no request
does, and there may be too much of it all. -/
def isSendable (u : Url) : Bool :=
  !u.host.text.toList.any (fun c => "\"\x60\x7b\x7d".toList.contains c) &&
    u.text.length ≤ maxLength

end Url

end GraphBrowser
