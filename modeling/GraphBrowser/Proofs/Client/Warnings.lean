import GraphBrowser.Proofs.Client.Outcome

namespace GraphBrowser

def Exchange.Warns (exchange : Exchange α) : Prop := ∃ event ∈ exchange.events, event.level = .warn

namespace Reply

/-- Nothing came back for the request. -/
def Missing (reply : Reply) : Prop := reply = .fault .noConnection ∨ reply = .fault .timedOut

/-- The response broke off, or it is complete and its body does not decode. -/
def Spoiled (call : Call α) (reply : Reply) : Prop :=
  reply = .fault .truncated ∨ ∃ text, reply.Answers text ∧ call.Undecodable text

variable {call : Call α} {reply : Reply}

theorem Missing.not_spoiled (h : reply.Missing) : ¬ reply.Spoiled call := by
  rintro (rfl | ⟨text, hanswers, -⟩)
  · obtain h | h := h <;> cases h
  · obtain rfl | rfl := h <;> exact not_answers_fault _ text hanswers

theorem Rejects.not_spoiled (h : reply.Rejects) : ¬ reply.Spoiled call := by
  obtain ⟨status, body, rfl, hstatus⟩ := h
  rintro (h | ⟨text, ⟨_, _, h, hsuccess, -⟩, -⟩)
  · cases h
  · cases h
    exact hstatus hsuccess

end Reply

namespace Client

variable {client : Client} {request : Request} {call : Call α} {reply : Reply} {e : Error}

/-- A failure is of one of three kinds, and each kind is reported in its own way. -/
theorem failed_cases (h : (client.conclude call request reply).result = .error e) :
    reply.Missing ∧ (client.conclude call request reply).events = [.get, .transportFailure] ∨
    reply.Rejects ∧ (client.conclude call request reply).events = [.get, .requestRejected] ∨
    reply.Spoiled call ∧ (client.conclude call request reply).events = [.get] := by
  cases reply with
  | fault f =>
    cases f with
    | noConnection => exact .inl ⟨.inl rfl, rfl⟩
    | timedOut => exact .inl ⟨.inr rfl, rfl⟩
    | truncated => exact .inr (.inr ⟨.inl rfl, rfl⟩)
  | response status body =>
    cases hstatus : Status.isSuccess status with
    | false =>
      refine .inr (.inl ⟨Reply.rejects_response.mpr hstatus, ?_⟩)
      simp [conclude, hstatus]
    | true =>
      rw [result_answered body hstatus] at h
      refine .inr (.inr ⟨.inr ⟨_, Reply.answers_response.mpr ⟨hstatus, rfl⟩, (decode_eq_error h).1⟩, ?_⟩)
      simp [conclude, hstatus, h]

theorem warns_iff_not_spoiled (h : (client.conclude call request reply).result = .error e) :
    (client.conclude call request reply).Warns ↔ ¬ reply.Spoiled call := by
  rw [Exchange.Warns]
  obtain ⟨hreply, hevents⟩ | ⟨hreply, hevents⟩ | ⟨hreply, hevents⟩ := failed_cases h
  · exact iff_of_true ⟨.transportFailure, by simp [hevents], rfl⟩ hreply.not_spoiled
  · exact iff_of_true ⟨.requestRejected, by simp [hevents], rfl⟩ hreply.not_spoiled
  · rw [hevents]
    exact iff_of_false (by decide) (not_not_intro hreply)

variable {send : Request → Reply}

theorem asked_unsent (hcall : ¬ call.LacksArgument) (h : (client.asked send call).2 = []) :
    ∃ e, client.asked send call =
      ({ result := .error e, events := [.get, .transportFailure] }, []) := by
  have hrefusal := Call.refusal_eq_none.mpr hcall
  cases hrequest : client.request call with
  | error e => exact ⟨e, asked_unsendable hrefusal hrequest⟩
  | ok request =>
    rw [asked_sent hrefusal hrequest] at h
    cases h

/-- What is reported about a call that fails. If nothing was sent, it is nothing for a call without its
arguments, and a warning for any other. If a request was sent, there is a warning if nothing came back or
the request was rejected; but there is none if the response broke off or its body does not decode. -/
theorem failures_reported (client : Client) (send : Request → Reply) (call : Call α) {e : Error}
    (h : (client.asked send call).1.result = .error e) :
    let made := client.asked send call
    (call.LacksArgument → made.2 = [] ∧ made.1.events = []) ∧
    (¬ call.LacksArgument → made.2 = [] → made.1.events = [.get, .transportFailure]) ∧
    ∀ request, made.2 = [request] →
      ((send request).Missing ∧ made.1.events = [.get, .transportFailure] ∨
        (send request).Rejects ∧ made.1.events = [.get, .requestRejected] ∨
        (send request).Spoiled call ∧ made.1.events = [.get]) ∧
      (made.1.Warns ↔ ¬ (send request).Spoiled call) := by
  dsimp only
  refine ⟨fun hcall => ?_, fun hcall hunsent => ?_, fun request hsent => ?_⟩
  · obtain ⟨why, hasked⟩ := @asked_lacking _ client send call hcall
    rw [hasked]
    exact ⟨rfl, rfl⟩
  · obtain ⟨why, hasked⟩ := asked_unsent hcall hunsent
    rw [hasked]
  · rw [asked_of_sent hsent] at h ⊢
    exact ⟨failed_cases h, warns_iff_not_spoiled h⟩

theorem asked_node_loopback (send : Request → Reply) : ∃ request,
    asked ⟨trimSlashes Site.loopback.address, 30000, "depview/0.1.0"⟩ send (.node "a.B") =
      (conclude ⟨trimSlashes Site.loopback.address, 30000, "depview/0.1.0"⟩ (.node "a.B") request
        (send request), [request]) := by
  have hcall : ¬ (Call.node "a.B").LacksArgument := by simp [Call.LacksArgument]
  exact Site.asked_once Site.ofConfig_loopback send hcall (by decide +kernel)

theorem failures_reported_missing :
    ∃ client, Client.ofConfig ⟨Site.loopback.address, 30000, "depview/0.1.0"⟩ = .ok client ∧
      (∃ e, (client.asked (fun _ => .response 404 []) (.node "a.B")).1.result = .error e) ∧
      (client.asked (fun _ => .response 404 []) (.node "a.B")).1.Warns := by
  obtain ⟨request, hasked⟩ := asked_node_loopback fun _ => .response 404 []
  have hrejects : (Reply.response 404 []).Rejects := Reply.rejects_response.mpr (by decide)
  have hfailed := (congrArg (fun made => made.1.result) hasked).trans (result_rejected [] (by decide))
  have hreported := (failures_reported _ _ (.node "a.B") hfailed).2.2 request (congrArg Prod.snd hasked)
  exact ⟨_, Site.ofConfig_loopback, ⟨_, hfailed⟩, hreported.2.mpr hrejects.not_spoiled⟩

theorem spoiled_node {client : Client} {request : Request}
    (hreply : reply ∈ [Reply.response 200 [], .fault .truncated]) :
    reply.Spoiled (.node "a.B") ∧ ∃ e, (client.conclude (.node "a.B") request reply).result = .error e := by
  obtain rfl | rfl : reply = .response 200 [] ∨ reply = .fault .truncated := by simpa using hreply
  · obtain ⟨e, he⟩ : ∃ e, Node.parse "" = .error e := ⟨_, rfl⟩
    have htext : Reply.bodyText [] = "" := Reply.bodyText_utf8Bytes []
    refine ⟨.inr ⟨"", Reply.answers_response.mpr ⟨by decide, htext⟩, e, he⟩, undecodable "node" e, ?_⟩
    rw [result_answered [] (by decide), htext]
    exact mapError_eq_error.mpr ⟨e, he, rfl⟩
  · exact ⟨.inl rfl, _, rfl⟩

/-- A body that holds no node and a response that breaks off are errors without a warning. -/
theorem spoiled_not_warned :
    ∃ client, Client.ofConfig ⟨Site.loopback.address, 30000, "depview/0.1.0"⟩ = .ok client ∧
      ∀ reply ∈ [Reply.response 200 [], .fault .truncated],
        (∃ e, (client.asked (fun _ => reply) (.node "a.B")).1.result = .error e) ∧
        (∃ request, (client.asked (fun _ => reply) (.node "a.B")).2 = [request]) ∧
        ¬ (client.asked (fun _ => reply) (.node "a.B")).1.Warns := by
  refine ⟨_, Site.ofConfig_loopback, fun reply hreply => ?_⟩
  obtain ⟨request, hasked⟩ := asked_node_loopback fun _ => reply
  obtain ⟨hspoiled, e, hfailed⟩ := @spoiled_node reply
    ⟨trimSlashes Site.loopback.address, 30000, "depview/0.1.0"⟩ request hreply
  rw [hasked]
  refine ⟨⟨e, hfailed⟩, ⟨request, rfl⟩, ?_⟩
  rw [warns_iff_not_spoiled hfailed, not_not]
  exact hspoiled

end Client

end GraphBrowser
