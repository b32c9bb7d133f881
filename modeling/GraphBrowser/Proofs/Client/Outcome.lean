import GraphBrowser.Proofs.Client.Requests
import GraphBrowser.Proofs.Results

namespace GraphBrowser

namespace Reply

def Breaks (reply : Reply) : Prop := ∃ f, reply = .fault f

/-- A complete response whose status says that there is no answer. -/
def Rejects (reply : Reply) : Prop :=
  ∃ status body, reply = .response status body ∧ ¬ (200 ≤ status ∧ status < 300)

/-- A complete response with an answer in its body, which is this text. -/
def Answers (reply : Reply) (text : String) : Prop :=
  ∃ status body, reply = .response status body ∧ (200 ≤ status ∧ status < 300) ∧
    bodyText body = text

end Reply

namespace Call

def OfNode (name : String) : Call α → Prop
  | .node n => n = name
  | _ => False

def OfEdge (source target : String) : Call α → Prop
  | .edge s t => s = source ∧ t = target
  | _ => False

def OfGraph : Call α → Prop
  | .info | .nodes _ _ _ => True
  | .node _ | .edge _ _ => False

/-- The answer that a text decodes to. A description is also any text that is no description in
JSON; it is then taken without the blanks around it. -/
def Reads : Call α → String → α → Prop
  | .info, text, description => GraphInfo.parse text = .ok ⟨description⟩ ∨
      (∃ e, GraphInfo.parse text = .error e) ∧ description = Text.trim text
  | .node _, text, n => Node.parse text = .ok n
  | .nodes _ _ _, text, p => ResultPage.parse text = .ok p
  | .edge _ _, text, d => Dependency.parse text = .ok d

def Undecodable : Call α → String → Prop
  | .info, _ => False
  | .node _, text => ∃ e, Node.parse text = .error e
  | .nodes _ _ _, text => ∃ e, ResultPage.parse text = .error e
  | .edge _ _, text => ∃ e, Dependency.parse text = .error e

end Call

/-- How a call that was sent ends, given its reply: the error it fails with, or its answer. -/
structure Classified (call : Call α) (reply : Reply) (result : Except Error α) : Prop where
  valid : ∀ text, result ≠ .error (.invalidArgument text)
  remoteFetch : (∃ text, result = .error (.remoteFetch text)) ↔
    reply.Breaks ∨ reply.Rejects ∧ call.OfGraph
  nodeNotFound : ∀ name, (∃ text, result = .error (.nodeNotFound name text)) ↔
    reply.Rejects ∧ call.OfNode name
  edgeNotFound : ∀ source target, (∃ text, result = .error (.edgeNotFound source target text)) ↔
    reply.Rejects ∧ call.OfEdge source target
  serialization : (∃ text, result = .error (.serialization text)) ↔
    ∃ text, reply.Answers text ∧ call.Undecodable text
  success : (∃ answer, result = .ok answer) ↔ ∃ text, reply.Answers text ∧ ¬ call.Undecodable text
  answer : ∀ answer, result = .ok answer ↔ ∃ text, reply.Answers text ∧ call.Reads text answer

theorem Status.isSuccess_iff {status : Nat} :
    isSuccess status = true ↔ 200 ≤ status ∧ status < 300 := by
  simp only [isSuccess, Bool.and_eq_true, decide_eq_true_eq]
  omega

namespace Reply

theorem breaks_fault (f : Fault) : (fault f).Breaks := ⟨f, rfl⟩

theorem not_breaks_response (status : Nat) (body : List UInt8) : ¬ (response status body).Breaks := by
  rintro ⟨f, h⟩
  cases h

theorem not_rejects_fault (f : Fault) : ¬ (fault f).Rejects := by
  rintro ⟨status, body, h, -⟩
  cases h

theorem not_answers_fault (f : Fault) (text : String) : ¬ (fault f).Answers text := by
  rintro ⟨status, body, h, -⟩
  cases h

theorem rejects_response {status : Nat} {body : List UInt8} :
    (response status body).Rejects ↔ Status.isSuccess status = false := by
  rw [← Bool.not_eq_true, Status.isSuccess_iff]
  constructor
  · rintro ⟨_, _, h, hstatus⟩
    cases h
    exact hstatus
  · exact fun hstatus => ⟨status, body, rfl, hstatus⟩

theorem answers_response {status : Nat} {body : List UInt8} {text : String} :
    (response status body).Answers text ↔
      Status.isSuccess status = true ∧ bodyText body = text := by
  rw [Status.isSuccess_iff]
  constructor
  · rintro ⟨_, _, h, hstatus, htext⟩
    cases h
    exact ⟨hstatus, htext⟩
  · exact fun ⟨hstatus, htext⟩ => ⟨status, body, rfl, hstatus, htext⟩

end Reply

namespace Client

variable {client : Client} {request : Request} {call : Call α} {text : String}

theorem decode_eq_ok {answer : α} : decode text call = .ok answer ↔ call.Reads text answer := by
  cases call with
  | info =>
    cases h : GraphInfo.parse text with
    | ok g =>
      cases g
      simp [decode, Call.Reads, h]
    | error e => simp [decode, Call.Reads, h, eq_comm]
  | node | nodes | edge => exact mapError_eq_ok

theorem decode_eq_error {e : Error} (h : decode text call = .error e) :
    call.Undecodable text ∧ ∃ why, e = .serialization why := by
  cases call with
  | info =>
    rw [decode] at h
    cases hparse : GraphInfo.parse text <;> simp [hparse] at h
  | node | nodes | edge =>
    obtain ⟨d, hd, rfl⟩ := mapError_eq_error.mp h
    exact ⟨⟨d, hd⟩, _, rfl⟩

theorem not_undecodable {answer : α} (h : decode text call = .ok answer) :
    ¬ call.Undecodable text := by
  cases call with
  | info => exact id
  | node | nodes | edge =>
    rintro ⟨d, hd⟩
    rw [mapError_eq_ok.mp h] at hd
    cases hd

theorem result_rejected {status : Nat} (body : List UInt8) (h : Status.isSuccess status = false) :
    (client.conclude call request (.response status body)).result =
      .error (rejected (Reply.rejection status (Reply.bodyText body)) call) := by
  simp [conclude, h]

theorem result_answered {status : Nat} (body : List UInt8) (h : Status.isSuccess status = true) :
    (client.conclude call request (.response status body)).result =
      decode (Reply.bodyText body) call := by
  simp only [conclude, h, if_true]
  cases decode (Reply.bodyText body) call <;> rfl

theorem conclude_answered {status : Nat} {body : List UInt8} {answer : α}
    (h : Status.isSuccess status = true) (hdecode : decode (Reply.bodyText body) call = .ok answer) :
    client.conclude call request (.response status body) =
      ⟨.ok answer, [request], .get :: remarks call answer⟩ := by
  simp only [conclude, h, if_true, hdecode]

theorem asked_answered {send : Request → Reply} {status : Nat} {body : List UInt8}
    (hsent : (client.asked send call).2 = [request]) (hreply : send request = .response status body)
    (hstatus : 200 ≤ status ∧ status < 300) :
    (client.asked send call).1.result = decode (Reply.bodyText body) call := by
  rw [asked_of_sent hsent, hreply, result_answered body (Status.isSuccess_iff.mpr hstatus)]

theorem classified_fault (f : Fault) :
    Classified call (.fault f) (client.conclude call request (.fault f)).result := by
  have hbreaks := Reply.breaks_fault f
  have hrejects := Reply.not_rejects_fault f
  have hanswers := Reply.not_answers_fault f
  constructor <;> simp [conclude, hbreaks, hrejects, hanswers]

theorem classified_rejected {status : Nat} (body : List UInt8)
    (h : Status.isSuccess status = false) :
    Classified call (.response status body)
      (client.conclude call request (.response status body)).result := by
  have hbreaks := Reply.not_breaks_response status body
  have hrejects : (Reply.response status body).Rejects := Reply.rejects_response.mpr h
  have hanswers : ∀ text, ¬ (Reply.response status body).Answers text := by
    intro text hanswers
    rw [Reply.answers_response, h] at hanswers
    cases hanswers.1
  rw [result_rejected body h]
  cases call <;> constructor <;>
    simp [rejected, hbreaks, hrejects, hanswers, Call.OfGraph, Call.OfNode, Call.OfEdge]

theorem classified_answered {status : Nat} (body : List UInt8)
    (h : Status.isSuccess status = true) :
    Classified call (.response status body)
      (client.conclude call request (.response status body)).result := by
  have hbreaks := Reply.not_breaks_response status body
  have hrejects : ¬ (Reply.response status body).Rejects := by
    rw [Reply.rejects_response, h]
    exact nofun
  have hanswers : ∀ text, (Reply.response status body).Answers text ↔
      Reply.bodyText body = text := by
    intro text
    rw [Reply.answers_response, and_iff_right h]
  rw [result_answered body h]
  cases hd : decode (Reply.bodyText body) call with
  | ok answer =>
    have hreads : ∀ other, call.Reads (Reply.bodyText body) other ↔ answer = other := by
      intro other
      rw [← decode_eq_ok, hd, Except.ok.injEq]
    have hdecodes := not_undecodable hd
    constructor <;> simp [hbreaks, hrejects, hanswers, hreads, hdecodes]
  | error e =>
    obtain ⟨hundecodable, why, rfl⟩ := decode_eq_error hd
    have hreads : ∀ other, ¬ call.Reads (Reply.bodyText body) other := by
      intro other
      rw [← decode_eq_ok, hd]
      exact nofun
    constructor <;> simp [hbreaks, hrejects, hanswers, hreads, hundecodable]

theorem classified_conclude (client : Client) (call : Call α) (request : Request) (reply : Reply) :
    Classified call reply (client.conclude call request reply).result := by
  cases reply with
  | fault f => exact classified_fault f
  | response status body =>
    cases h : Status.isSuccess status with
    | false => exact classified_rejected body h
    | true => exact classified_answered body h

end Client

namespace Site

variable {site : Site} {timeout : Nat} {userAgent : String} {client : Client}

/-- How every call ends. Without its arguments it is invalid and nothing is sent; otherwise one request
is sent and its reply decides. A request whose address is too long is refused before it is sent. -/
theorem reply_decides (h : Client.ofConfig ⟨site.address, timeout, userAgent⟩ = .ok client)
    (send : Request → Reply) (call : Call α) :
    let made := client.asked send call
    ((∃ text, made.1.result = .error (.invalidArgument text)) ↔ call.LacksArgument) ∧
    (call.LacksArgument → made.2 = []) ∧
    (¬ call.LacksArgument → (client.requestAddress call).length ≤ 65534 →
      ∃ request, made.2 = [request] ∧ Classified call (send request) made.1.result) ∧
    (¬ call.LacksArgument → 65534 < (client.requestAddress call).length →
      made.2 = [] ∧ ∃ text, made.1.result = .error (.remoteFetch text)) := by
  dsimp only
  by_cases hcall : call.LacksArgument
  · obtain ⟨why, hasked⟩ := @Client.asked_lacking _ client send call hcall
    rw [hasked]
    exact ⟨⟨fun _ => hcall, fun _ => ⟨why, rfl⟩⟩, fun _ => rfl, fun hn => absurd hcall hn,
      fun hn => absurd hcall hn⟩
  · rcases Nat.lt_or_ge 65534 (client.requestAddress call).length with hlong | hshort
    · obtain ⟨why, hasked⟩ := asked_too_long h send hcall hlong
      rw [hasked]
      refine ⟨⟨?_, fun hc => absurd hc hcall⟩, fun hc => absurd hc hcall,
        fun _ hshort => absurd hlong (Nat.not_lt.mpr hshort), fun _ _ => ⟨rfl, why, rfl⟩⟩
      rintro ⟨text, ht⟩
      cases ht
    · obtain ⟨request, hasked⟩ := asked_once h send hcall hshort
      have hclassified := client.classified_conclude call request (send request)
      rw [hasked]
      refine ⟨⟨?_, fun hc => absurd hc hcall⟩, fun hc => absurd hc hcall,
        fun _ _ => ⟨request, rfl, hclassified⟩, fun _ hlong => absurd hlong (Nat.not_lt.mpr hshort)⟩
      rintro ⟨text, ht⟩
      exact absurd ht (hclassified.valid text)

theorem reply_decides_missing :
    ∃ client, Client.ofConfig ⟨loopback.address, 30000, "depview/0.1.0"⟩ = .ok client ∧
      ¬ (Call.node "a.B").LacksArgument ∧
      (client.requestAddress (.node "a.B")).length ≤ 65534 ∧
      ∃ text, (client.asked (fun _ => .response 404 []) (.node "a.B")).1.result =
        .error (.nodeNotFound "a.B" text) := by
  have hcall : ¬ (Call.node "a.B").LacksArgument := by simp [Call.LacksArgument]
  have hlength : (Client.requestAddress ⟨Client.trimSlashes loopback.address, 30000,
      "depview/0.1.0"⟩ (.node "a.B")).length ≤ 65534 := by decide +kernel
  obtain ⟨request, -, hclassified⟩ :=
    (reply_decides ofConfig_loopback (fun _ => .response 404 []) (.node "a.B")).2.2.1 hcall hlength
  have hrejects : (Reply.response 404 []).Rejects := Reply.rejects_response.mpr (by decide)
  exact ⟨_, ofConfig_loopback, hcall, hlength, (hclassified.nodeNotFound "a.B").mpr ⟨hrejects, rfl⟩⟩

def endlessName : String := String.ofList (List.replicate 65535 'a')

theorem length_endlessName : endlessName.length = 65535 :=
  String.length_ofList.trans List.length_replicate

theorem endlessName_ne_empty : endlessName ≠ "" := by
  intro hempty
  have hlength := length_endlessName
  rw [hempty] at hlength
  cases hlength

theorem request_endless {call : Call α} {key : String} (h : (key, endlessName) ∈ call.parameters) :
    ∃ e, Client.request ⟨Client.trimSlashes loopback.address, 30000, "depview/0.1.0"⟩ call =
      .error e := by
  have hlong := length_requestAddress ofConfig_loopback h
  rw [length_endlessName] at hlong
  exact request_too_long ofConfig_loopback call hlong

/-- For a node with an endless name no request is made, whatever the service would answer. -/
theorem no_request_endlessName :
    ∃ client, Client.ofConfig ⟨loopback.address, 30000, "depview/0.1.0"⟩ = .ok client ∧
      ¬ (Call.node endlessName).LacksArgument ∧
      ∀ send, ¬ ∃ request, (client.asked send (.node endlessName)).2 = [request] := by
  have hlong : Url.maxLength < endlessName.length := by
    rw [length_endlessName]
    decide
  generalize endlessName = name at hlong
  have hcall : ¬ (Call.node name).LacksArgument := by
    rintro rfl
    exact Nat.not_lt_zero _ hlong
  have hmem : ("name", name) ∈ (Call.node name).parameters := List.mem_singleton_self _
  have haddress := Nat.lt_of_lt_of_le hlong (length_requestAddress ofConfig_loopback hmem)
  refine ⟨_, ofConfig_loopback, hcall, fun send => ?_⟩
  obtain ⟨why, hasked⟩ := asked_too_long ofConfig_loopback send hcall haddress
  rw [hasked]
  rintro ⟨request, h⟩
  cases h

end Site

end GraphBrowser
