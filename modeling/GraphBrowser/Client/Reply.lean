import GraphBrowser.Json.Reader
import GraphBrowser.Text.Basic
import GraphBrowser.Text.Bytes

namespace GraphBrowser.Status

def reasons : List (Nat × String) := [
  (100, "Continue"), (101, "Switching Protocols"), (102, "Processing"), (103, "Early Hints"),
  (200, "OK"), (201, "Created"), (202, "Accepted"), (203, "Non Authoritative Information"),
  (204, "No Content"), (205, "Reset Content"), (206, "Partial Content"), (207, "Multi-Status"),
  (208, "Already Reported"), (226, "IM Used"),
  (300, "Multiple Choices"), (301, "Moved Permanently"), (302, "Found"), (303, "See Other"),
  (304, "Not Modified"), (305, "Use Proxy"), (307, "Temporary Redirect"),
  (308, "Permanent Redirect"),
  (400, "Bad Request"), (401, "Unauthorized"), (402, "Payment Required"), (403, "Forbidden"),
  (404, "Not Found"), (405, "Method Not Allowed"), (406, "Not Acceptable"),
  (407, "Proxy Authentication Required"), (408, "Request Timeout"), (409, "Conflict"),
  (410, "Gone"), (411, "Length Required"), (412, "Precondition Failed"),
  (413, "Payload Too Large"), (414, "URI Too Long"), (415, "Unsupported Media Type"),
  (416, "Range Not Satisfiable"), (417, "Expectation Failed"), (418, "I'm a teapot"),
  (421, "Misdirected Request"), (422, "Unprocessable Entity"), (423, "Locked"),
  (424, "Failed Dependency"), (425, "Too Early"), (426, "Upgrade Required"),
  (428, "Precondition Required"), (429, "Too Many Requests"),
  (431, "Request Header Fields Too Large"), (451, "Unavailable For Legal Reasons"),
  (500, "Internal Server Error"), (501, "Not Implemented"), (502, "Bad Gateway"),
  (503, "Service Unavailable"), (504, "Gateway Timeout"), (505, "HTTP Version Not Supported"),
  (506, "Variant Also Negotiates"), (507, "Insufficient Storage"), (508, "Loop Detected"),
  (510, "Not Extended"), (511, "Network Authentication Required")]

def reason (status : Nat) : String :=
  ((reasons.find? fun (code, _) => code == status).map (·.2)).getD "<unknown status code>"

def text (status : Nat) : String := toString status ++ " " ++ reason status

def isSuccess (status : Nat) : Bool := 200 ≤ status && status ≤ 299

def hasNoBody (status : Nat) : Bool := status < 200 || status == 204 || status == 304

end GraphBrowser.Status

namespace GraphBrowser

open Json (Value)

inductive Fault where
  | noConnection
  | timedOut
  | truncated
  deriving DecidableEq, Repr

inductive Reply where
  | response (status : Nat) (body : List UInt8)
  | fault (f : Fault)
  deriving DecidableEq, Repr

namespace Reply

/-- A response as it is received: for some codes without a body, whatever was sent. -/
def received (status : Nat) (body : List UInt8) : Reply :=
  .response status (if Status.hasNoBody status then [] else body)

def bodyText (body : List UInt8) : String := String.ofList (Text.decodeLossy body)

def errorField? (body : Value) (key : String) : Option String :=
  ((body.get? key).bind Value.string?).filter fun s => !Text.isBlankString s

/-- The message of a response that rejects a request: the body's `message`, else its `error`, else
the status. -/
def rejection (status : Nat) (body : String) : String :=
  let found := match Json.parse body with
    | .error _ => none
    | .ok value => errorField? value "message" <|> errorField? value "error"
  found.getD ("HTTP " ++ Status.text status)

end Reply

end GraphBrowser
