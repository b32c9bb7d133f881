import GraphBrowser.Client.Call
import GraphBrowser.Client.Config
import GraphBrowser.Client.Reply
import GraphBrowser.Event
import GraphBrowser.Graph.Wire
import GraphBrowser.Listing.Navigator
import GraphBrowser.Page.Wire

namespace GraphBrowser

/-- A service that can be asked. The base URL has no slash at its end. -/
structure Client where
  baseUrl : String
  timeout : Nat
  userAgent : String
  deriving DecidableEq, Repr

structure Request where
  url : Url
  credentials : Option Url.Credentials
  timeout : Nat
  userAgent : String
  deriving DecidableEq, Repr

def Request.target (r : Request) : String := r.url.target

/-- What came of a call: its result, the requests made for it and what was reported. -/
structure Exchange (α : Type) where
  result : Except Error α
  requests : List Request := []
  events : List Event := []

namespace Client

def trimSlashes (s : String) : String :=
  String.ofList (s.toList.reverse.dropWhile (· = '/')).reverse

def ofConfig (c : Config) : Except Error Client := do
  c.validate
  if c.userAgent.toList.all Config.isHeaderChar then
    return ⟨trimSlashes c.baseUrl, c.timeout, c.userAgent⟩
  else
    .error (.invalidConfig ConfigError.badUserAgent.message)

/-- The address of a call as messages name it, without parameters. -/
def address (client : Client) (call : Call α) : String := client.baseUrl ++ "/" ++ call.endpoint

def faultText (address url : String) : Fault → String
  | .noConnection =>
    "request to " ++ address ++ " failed: error sending request for url (" ++ url ++ ")"
  | .timedOut => "request to " ++ address ++ " timed out"
  | .truncated =>
    "failed to read response body from " ++ address ++ ": error decoding response body"

/-- What is reported about a fault. A response that breaks off is not reported. -/
def faultEvents : Fault → List Event
  | .truncated => []
  | _ => [.transportFailure]

/-- The error of a call for which no request can be made, as its address is no URL or the one
given. -/
def unsendable (address : String) (url? : Option Url) : Error :=
  .remoteFetch ("request to " ++ address ++ " failed: builder error" ++
    match url? with
    | none => ""
    | some url => " for url (" ++ url.text ++ ")")

def request (client : Client) (call : Call α) : Except Error Request :=
  let address := client.address call
  match Url.parse address with
  | .ok (.web url) =>
    let sent := (url.withParameters call.parameters).withoutCredentials
    if sent.isSendable then
      .ok ⟨sent, url.user.credentials?, client.timeout, client.userAgent⟩
    else
      .error (unsendable address (some sent))
  | _ => .error (unsendable address none)

def rejected (text : String) : Call α → Error
  | .info => .remoteFetch text
  | .node name => .nodeNotFound name text
  | .nodes _ _ _ => .remoteFetch text
  | .edge source target => .edgeNotFound source target text

def undecodable (what : String) (e : Json.DecodeError) : Error :=
  .serialization ("failed to parse " ++ what ++ " response: " ++ e.message)

/-- The answer that a body holds. The description may also be plain text. -/
def decode (body : String) : Call α → Except Error α
  | .info =>
    match GraphInfo.parse body with
    | .ok g => .ok g.info
    | .error _ => .ok (Text.trim body)
  | .node _ => (Node.parse body).mapError (undecodable "node")
  | .nodes _ _ _ => (ResultPage.parse body).mapError (undecodable "node list")
  | .edge _ _ => (Dependency.parse body).mapError (undecodable "edge")

/-- What is reported about an answer: each dependency that does not belong to its node, and a page
whose numbers do not agree. -/
def remarks : (call : Call α) → α → List Event
  | .info, _ => []
  | .node _, n => n.violations.map fun _ => .strayDependency
  | .nodes _ _ _, p => if p.isConsistent then [] else [.inconsistentPage]
  | .edge _ _, _ => []

def conclude (client : Client) (call : Call α) (request : Request) (reply : Reply) : Exchange α :=
  let failed (e : Error) (events : List Event) : Exchange α :=
    ⟨.error e, [request], .get :: events⟩
  match reply with
  | .fault f =>
    failed (.remoteFetch (faultText (client.address call) request.url.text f)) (faultEvents f)
  | .response status body =>
    let body := Reply.bodyText body
    if Status.isSuccess status then
      match decode body call with
      | .error e => failed e []
      | .ok answer => ⟨.ok answer, [request], .get :: remarks call answer⟩
    else
      failed (rejected (Reply.rejection status body) call) [.requestRejected]

/-- The request to make for a call, or what came of it without one. -/
def prepare (client : Client) (call : Call α) : Except (Exchange α) Request :=
  match call.refusal? with
  | some e => .error { result := .error e }
  | none =>
    (client.request call).mapError fun e =>
      { result := .error e, events := [.get, .transportFailure] }

def ask [Monad m] (client : Client) (send : Request → m Reply) (call : Call α) :
    m (Exchange α) := do
  match client.prepare call with
  | .error exchange => return exchange
  | .ok request => return client.conclude call request (← send request)

def pageCall (ticket : Ticket) : Call (ResultPage Node) :=
  .nodes ticket.query ticket.page ticket.size

/-- What came of an action: the listing after it, the requests made for it and what was reported. -/
structure Step where
  nav : Navigator
  requests : List Request
  events : List Event

def perform [Monad m] (client : Client) (send : Request → m Reply) (nav : Navigator)
    (action : Action) : m Step := do
  match nav.start action with
  | (nav, none) => return ⟨nav, [], Navigator.startEvents action⟩
  | (nav, some ticket) =>
    let exchange ← client.ask send (pageCall ticket)
    return {
      nav := nav.finish ticket exchange.result
      requests := exchange.requests
      events := exchange.events ++ nav.finishEvents ticket exchange.result }

end Client

end GraphBrowser
