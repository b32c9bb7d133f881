import GraphBrowser.Proofs.Client.Service

namespace GraphBrowser

/-- Whether something that a call needs is missing: the name of a node, or a size of pages. -/
def Call.LacksArgument : Call α → Prop
  | .info => False
  | .node name => name = ""
  | .nodes _ _ size => size = 0
  | .edge source target => source = "" ∨ target = ""

namespace Call

theorem refusal_eq_none {call : Call α} : call.refusal? = none ↔ ¬ call.LacksArgument := by
  cases call with
  | info => simp [refusal?, LacksArgument]
  | node name => simp [refusal?, LacksArgument]
  | nodes query page size => simp [refusal?, LacksArgument]
  | edge source target =>
    by_cases hs : source = "" <;> by_cases ht : target = "" <;>
      simp [refusal?, LacksArgument, hs, ht]

theorem refusal_cases {call : Call α} {e : Error} (h : call.refusal? = some e) :
    e = ResultPage.zeroSize ∨ ∃ what, e = emptyArgument what := by
  cases call with
  | info => cases h
  | node name =>
    simp only [refusal?] at h
    split at h
    · cases h
      exact .inr ⟨_, rfl⟩
    · cases h
  | nodes query page size =>
    simp only [refusal?] at h
    split at h
    · cases h
      exact .inl rfl
    · cases h
  | edge source target =>
    simp only [refusal?] at h
    split at h
    · cases h
      exact .inr ⟨_, rfl⟩
    · split at h
      · cases h
        exact .inr ⟨_, rfl⟩
      · cases h

theorem refusal_invalid {call : Call α} {e : Error} (h : call.refusal? = some e) :
    ∃ text, e = .invalidArgument text := by
  obtain rfl | ⟨what, rfl⟩ := refusal_cases h <;> exact ⟨_, rfl⟩

open Service (parameter? word?)

/-- The call that a service reads from parameters. -/
def ofParameters (ps : Url.Form.Parameters) : Σ γ, Call γ :=
  match parameter? ps "name", parameter? ps "from", parameter? ps "to",
    (parameter? ps "page").bind word?, (parameter? ps "size").bind word? with
  | some name, _, _, _, _ => ⟨_, .node name⟩
  | none, some source, some target, _, _ => ⟨_, .edge source target⟩
  | none, _, _, some page, some size => ⟨_, .nodes ((parameter? ps "q").getD "") page size⟩
  | _, _, _, _, _ => ⟨_, .info⟩

theorem ofParameters_parameters (call : Call α) : ofParameters call.parameters = ⟨α, call⟩ := by
  cases call with
  | info => rfl
  | node name => rfl
  | nodes query page size =>
    obtain ⟨hpage, hsize, hquery⟩ := Service.parameter_nodes query page size
    have hname : parameter? (nodes query page size).parameters "name" = none := by
      by_cases hq : query.isEmpty <;> simp [parameters, parameter?, hq]
    have hfrom : parameter? (nodes query page size).parameters "from" = none := by
      by_cases hq : query.isEmpty <;> simp [parameters, parameter?, hq]
    simp only [ofParameters, hname, hfrom, hpage, hsize, hquery, Option.bind_some,
      Service.word_repr]
  | edge source target => rfl

end Call

namespace Client

/-- What comes of a call with requests answered by `send`, and the requests that were sent. -/
def asked (client : Client) (send : Request → Reply) (call : Call α) :
    Exchange α × List Request :=
  let recorded (request : Request) : StateM (List Request) Reply := do
    modify (· ++ [request])
    return send request
  (client.ask recorded call).run []

variable {client : Client} {send : Request → Reply} {call : Call α}

theorem asked_refused {e : Error} (h : call.refusal? = some e) :
    client.asked send call = ({ result := .error e }, []) := by
  simp only [asked, ask, prepare, h]
  rfl

theorem asked_unsendable {e : Error} (hrefusal : call.refusal? = none)
    (h : client.request call = .error e) :
    client.asked send call =
      ({ result := .error e, events := [.get, .transportFailure] }, []) := by
  simp only [asked, ask, prepare, hrefusal, h, Except.mapError]
  rfl

theorem asked_sent {request : Request} (hrefusal : call.refusal? = none)
    (h : client.request call = .ok request) :
    client.asked send call = (client.conclude call request (send request), [request]) := by
  simp only [asked, ask, prepare, hrefusal, h, Except.mapError]
  rfl

theorem asked_lacking (h : call.LacksArgument) : ∃ why,
    client.asked send call = ({ result := .error (.invalidArgument why) }, []) := by
  have hrefused : call.refusal? ≠ none := fun hnone => Call.refusal_eq_none.mp hnone h
  obtain ⟨e, he⟩ := Option.ne_none_iff_exists'.mp hrefused
  obtain ⟨why, rfl⟩ := Call.refusal_invalid he
  exact ⟨why, asked_refused he⟩

theorem request_unsendable {e : Error} (h : client.request call = .error e) :
    ∃ url?, e = unsendable (client.address call) url? := by
  simp only [request] at h
  split at h
  · split at h
    · cases h
    · cases h
      exact ⟨_, rfl⟩
  · cases h
    exact ⟨_, rfl⟩

theorem request_error {e : Error} (h : client.request call = .error e) :
    ∃ text, e = .remoteFetch text := by
  obtain ⟨url?, rfl⟩ := request_unsendable h
  exact ⟨_, rfl⟩

theorem request_of_sent {request : Request} (h : request ∈ (client.asked send call).2) :
    client.request call = .ok request := by
  cases hrefusal : call.refusal? with
  | some e =>
    rw [asked_refused hrefusal] at h
    cases h
  | none =>
    cases hrequest : client.request call with
    | error e =>
      rw [asked_unsendable hrefusal hrequest] at h
      cases h
    | ok made =>
      rw [asked_sent hrefusal hrequest] at h
      rw [List.mem_singleton.mp h]

theorem asked_of_sent {request : Request} (h : (client.asked send call).2 = [request]) :
    (client.asked send call).1 = client.conclude call request (send request) := by
  cases hrefusal : call.refusal? with
  | some e =>
    rw [asked_refused hrefusal] at h
    cases h
  | none =>
    have hrequest := request_of_sent (h ▸ List.mem_singleton_self request)
    rw [asked_sent hrefusal hrequest]

end Client

namespace Site

variable {site : Site} {timeout : Nat} {userAgent : String} {client : Client}

theorem asked_once (h : Client.ofConfig ⟨site.address, timeout, userAgent⟩ = .ok client)
    (send : Request → Reply) {call : Call α} (hcall : ¬ call.LacksArgument)
    (hlength : (client.requestAddress call).length ≤ Url.maxLength) :
    ∃ request, client.asked send call =
      (client.conclude call request (send request), [request]) := by
  obtain ⟨request, hrequest, -⟩ := request_of_call h call hlength
  exact ⟨request, Client.asked_sent (Call.refusal_eq_none.mpr hcall) hrequest⟩

theorem asked_too_long (h : Client.ofConfig ⟨site.address, timeout, userAgent⟩ = .ok client)
    (send : Request → Reply) {call : Call α} (hcall : ¬ call.LacksArgument)
    (hlength : Url.maxLength < (client.requestAddress call).length) :
    ∃ why, client.asked send call =
      ({ result := .error (.remoteFetch why), events := [.get, .transportFailure] }, []) := by
  obtain ⟨e, he⟩ := request_too_long h call hlength
  obtain ⟨why, rfl⟩ := Client.request_error he
  exact ⟨why, Client.asked_unsendable (Call.refusal_eq_none.mpr hcall) he⟩

/-- Whatever characters its arguments hold, the target of a request tells them as they are and nothing
else, so that no two calls have one target. Only for calls without their arguments, and for those whose
address is too long, there is no request. -/
theorem arguments_arrive (h : Client.ofConfig ⟨site.address, timeout, userAgent⟩ = .ok client)
    (send : Request → Reply) :
    (∀ request ∈ (client.asked send .info).2, '?' ∉ request.target.toList) ∧
    (∀ name, ∀ request ∈ (client.asked send (.node name)).2,
      request.parameters = [("name", name)]) ∧
    (∀ source target, ∀ request ∈ (client.asked send (.edge source target)).2,
      request.parameters = [("from", source), ("to", target)]) ∧
    (∀ page size, ∀ request ∈ (client.asked send (.nodes "" page size)).2,
      request.parameters = [("page", toString page.toNat), ("size", toString size.toNat)]) ∧
    (∀ query page size, query ≠ "" → ∀ request ∈ (client.asked send (.nodes query page size)).2,
      request.parameters =
        [("q", query), ("page", toString page.toNat), ("size", toString size.toNat)]) ∧
    (∀ {α β : Type} (call : Call α) (other : Call β), ∀ request ∈ (client.asked send call).2,
      ∀ request' ∈ (client.asked send other).2, request.target = request'.target →
      (⟨α, call⟩ : Σ γ, Call γ) = ⟨β, other⟩) ∧
    (∀ {α : Type} (call : Call α), ¬ call.LacksArgument →
      (client.requestAddress call).length ≤ 65534 →
      ∃ request, (client.asked send call).2 = [request]) := by
  have hall : ∀ {α : Type} (call : Call α), ∀ request ∈ (client.asked send call).2,
      request.parameters = call.parameters := fun call request hsent =>
    parameters_request h (Client.request_of_sent hsent)
  refine ⟨?_, fun name => hall _, fun source target => hall _, fun page size => hall _, ?_, ?_, ?_⟩
  · intro request hsent
    obtain ⟨path, hpath, hurl⟩ := url_request h (Client.request_of_sent hsent)
    rw [Request.target, hurl, Call.parameters, Url.target_without_parameters rfl]
    exact Url.question_not_mem_path hpath
  · intro query page size hquery request hsent
    rw [hall _ request hsent]
    simp [Call.parameters, hquery]
  · intro α β call other request hsent request' hsent' htarget
    have hsame : call.parameters = other.parameters := by
      rw [← hall call request hsent, ← hall other request' hsent', Request.parameters, htarget,
        Request.parameters]
    rw [← Call.ofParameters_parameters call, hsame, Call.ofParameters_parameters]
  · intro α call hcall hlength
    obtain ⟨request, hasked⟩ := asked_once h send hcall hlength
    exact ⟨request, congrArg Prod.snd hasked⟩

theorem arguments_arrive_ampersand :
    ∃ client, Client.ofConfig ⟨loopback.address, 30000, "depview/0.1.0"⟩ = .ok client ∧
      ∃ request, (client.asked (fun _ => .fault .timedOut) (.node "a&name=b+%23")).2 = [request] ∧
        request.parameters = [("name", "a&name=b+%23")] := by
  obtain ⟨-, hnode, -, -, -, -, hsent⟩ := arguments_arrive ofConfig_loopback fun _ => .fault .timedOut
  obtain ⟨request, hrequest⟩ :=
    hsent (.node "a&name=b+%23") (by simp [Call.LacksArgument]) (by decide +kernel)
  exact ⟨_, ofConfig_loopback, request, hrequest, hnode _ request (by simp [hrequest])⟩

end Site

end GraphBrowser
