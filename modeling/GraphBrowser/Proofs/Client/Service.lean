import GraphBrowser.Listing.Navigator
import GraphBrowser.Proofs.Client.Site
import GraphBrowser.Proofs.Page.Decoding
import GraphBrowser.Proofs.Text.Basic

namespace GraphBrowser

open Json

namespace Reply

theorem bodyText_utf8Bytes (cs : List Char) : bodyText (Text.utf8Bytes cs) = String.ofList cs := by
  rw [bodyText, Text.decodeLossy_utf8Bytes]

theorem bodyText_print (v : Value) : bodyText (Text.utf8Bytes v.print) = v.text :=
  bodyText_utf8Bytes v.print

def messageBody (m : String) : Value := .object [("message", .string m)]

theorem parse_messageBody (m : String) : Json.parse (messageBody m).text = .ok (messageBody m) := by
  have hexact : (messageBody m).Exact := ⟨List.pairwise_singleton _ _, trivial, trivial⟩
  have hdepth : (messageBody m).nesting ≤ maxDepth := by
    change 1 ≤ 127
    decide
  exact readText_ok (reads_value _ hexact maxDepth) hdepth (compact_value _ hexact).text

theorem rejection_messageBody (status : Nat) {m : String} (h : Text.isBlankString m = false) :
    rejection status (messageBody m).text = m := by
  have hfound : errorField? (messageBody m) "message" = some m := by
    simp [errorField?, messageBody, Value.get?, Value.string?, h]
  unfold rejection
  rw [parse_messageBody]
  simp [hfound]

end Reply

namespace Service

def outcome (nodes : List Node) (failure : Option Error) (query : String) (page size : UInt32) :
    PageOutcome :=
  match failure with
  | some e => .error e
  | none => ResultPage.ofList (nodesMatching nodes query) page size

def answer : PageOutcome → Reply
  | .ok p => .received 200 (Text.utf8Bytes (p.value Node.value).print)
  | .error e => .received 500 (Text.utf8Bytes (Reply.messageBody e.message).print)

def word? (s : String) : Option UInt32 :=
  (Text.ofDigits? 10 s.toList).bind fun n => if n < UInt32.size then some (.ofNat n) else none

def parameter? (ps : Url.Form.Parameters) (name : String) : Option String :=
  (ps.find? fun p => p.1 == name).map Prod.snd

/-- The service reads query, page and size from the target of a request. -/
def serve (nodes : List Node) (failure : Option Error) (request : Request) : Reply :=
  let ps := request.parameters
  match (parameter? ps "page").bind word?, (parameter? ps "size").bind word? with
  | some page, some size => answer (outcome nodes failure ((parameter? ps "q").getD "") page size)
  | _, _ => .received 400 []

theorem word_repr (x : UInt32) : word? x.toNat.repr = some x := by
  have hlt : x.toNat < UInt32.size := x.toNat_lt
  rw [word?, Nat.toList_repr, Text.ofDigits_toDigits]
  simp [hlt]

theorem parameter_nodes (query : String) (page size : UInt32) :
    parameter? (Call.nodes query page size).parameters "page" = some page.toNat.repr ∧
      parameter? (Call.nodes query page size).parameters "size" = some size.toNat.repr ∧
      (parameter? (Call.nodes query page size).parameters "q").getD "" = query := by
  by_cases hq : query.isEmpty
  · have hempty : query = "" := String.isEmpty_iff.mp hq
    subst hempty
    exact ⟨rfl, rfl, rfl⟩
  · simp [Call.parameters, hq, parameter?]

theorem serve_nodes (nodes : List Node) (failure : Option Error) {request : Request}
    {query : String} {page size : UInt32}
    (h : request.parameters = (Call.nodes query page size).parameters) :
    serve nodes failure request = answer (outcome nodes failure query page size) := by
  obtain ⟨hpage, hsize, hquery⟩ := parameter_nodes query page size
  simp only [serve, h, hpage, hsize, hquery, Option.bind_some, word_repr]

/-- What a client makes of an outcome that it is told about: of an error it learns the message. -/
def relayed : PageOutcome → PageOutcome
  | .ok p => .ok p
  | .error e => .error (.remoteFetch e.message)

/-- Outcomes that come through: exact pages that are not nested too deep, and errors that say
something. -/
def Relays : PageOutcome → Prop
  | .ok p => p.Exact ∧ (p.value Node.value).nesting ≤ 127
  | .error e => Text.isBlankString e.message = false

theorem conclude_answer (client : Client) (query : String) (page size : UInt32) (request : Request)
    {o : PageOutcome} (h : Relays o) :
    (client.conclude (.nodes query page size) request (answer o)).result = relayed o ∧
      (client.conclude (.nodes query page size) request (answer o)).requests = [request] := by
  cases o with
  | ok p =>
    obtain ⟨hexact, hnesting⟩ := h
    have hparse : ResultPage.parse (p.value Node.value).text = .ok p :=
      (ResultPage.parse_layout hexact (p.compact hexact).text).trans (if_pos hnesting)
    have hdecode : Client.decode (Reply.bodyText (Text.utf8Bytes (p.value Node.value).print))
        (.nodes query page size) = .ok p := by
      rw [Reply.bodyText_utf8Bytes, Client.decode]
      exact congrArg (Except.mapError _) hparse
    simp [answer, Reply.received, Client.conclude, Status.hasNoBody, Status.isSuccess, hdecode,
      relayed]
  | error e =>
    have hrejection : Reply.rejection 500
        (Reply.bodyText (Text.utf8Bytes (Reply.messageBody e.message).print)) = e.message := by
      rw [Reply.bodyText_utf8Bytes]
      exact Reply.rejection_messageBody 500 h
    simp [answer, Reply.received, Client.conclude, Status.hasNoBody, Status.isSuccess, hrejection,
      relayed, Client.rejected]

end Service

end GraphBrowser
