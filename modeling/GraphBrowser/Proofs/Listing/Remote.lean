import GraphBrowser.Client.Basic
import GraphBrowser.Proofs.Client.Outcome
import GraphBrowser.Proofs.Client.Service
import GraphBrowser.Proofs.Listing.Step

namespace GraphBrowser.Listing

open Service (outcome serve relayed Relays)

/-- One step of a run: what a user asks for, and the error that a load would end in, if any. -/
structure Deed where
  action : Action
  failure : Option Error := none

def memoryStep (nodes : List Node) (nav : Navigator) (d : Deed) : Navigator × List Ticket :=
  let fetch (ticket : Ticket) : StateM (List Ticket) PageOutcome := do
    modify (· ++ [ticket])
    return outcome nodes d.failure ticket.query ticket.page ticket.size
  (nav.perform fetch d.action).run []

def memoryRun (nodes : List Node) (nav : Navigator) : List Deed → List (Navigator × List Ticket)
  | [] => []
  | d :: ds => memoryStep nodes nav d :: memoryRun nodes (memoryStep nodes nav d).1 ds

def remoteStep (client : Client) (nodes : List Node) (nav : Navigator) (d : Deed) : Client.Step :=
  Id.run (client.perform (fun request => pure (serve nodes d.failure request)) nav d.action)

def remoteRun (client : Client) (nodes : List Node) (nav : Navigator) : List Deed → List Client.Step
  | [] => []
  | d :: ds =>
    remoteStep client nodes nav d :: remoteRun client nodes (remoteStep client nodes nav d).nav ds

/-- The listing is the same, and each load was one request that tells what it is for. -/
def Alike (memory : Navigator × List Ticket) (remote : Client.Step) : Prop :=
  remote.nav = memory.1 ∧
    remote.requests.map Request.parameters =
      memory.2.map fun ticket => (Client.pageCall ticket).parameters

theorem memoryStep_idle {nodes : List Node} {nav nav' : Navigator} {d : Deed}
    (h : nav.start d.action = (nav', none)) : memoryStep nodes nav d = (nav', []) :=
  stepWith_of_idle h

theorem memoryStep_load {nodes : List Node} {nav nav' : Navigator} {d : Deed} {ticket : Ticket}
    (h : nav.start d.action = (nav', some ticket)) : memoryStep nodes nav d =
      (nav'.finish ticket (outcome nodes d.failure ticket.query ticket.page ticket.size),
        [ticket]) :=
  stepWith_of_load h

theorem remoteStep_idle {client : Client} {nodes : List Node} {nav nav' : Navigator} {d : Deed}
    (h : nav.start d.action = (nav', none)) :
    (remoteStep client nodes nav d).nav = nav' ∧ (remoteStep client nodes nav d).requests = [] := by
  simp only [remoteStep, Client.perform, h]
  exact ⟨rfl, rfl⟩

theorem remoteStep_load {client : Client} {nodes : List Node} {nav nav' : Navigator} {d : Deed}
    {ticket : Ticket} {request : Request} (h : nav.start d.action = (nav', some ticket))
    (hprepare : client.prepare (Client.pageCall ticket) = .ok request) :
    (remoteStep client nodes nav d).nav = nav'.finish ticket
        (client.conclude (Client.pageCall ticket) request (serve nodes d.failure request)).result ∧
      (remoteStep client nodes nav d).requests =
        (client.conclude (Client.pageCall ticket) request
          (serve nodes d.failure request)).requests := by
  simp only [remoteStep, Client.perform, h, Client.ask, hprepare]
  exact ⟨rfl, rfl⟩

theorem finish_relayed (nav : Navigator) (ticket : Ticket) (o : PageOutcome) :
    nav.finish ticket (relayed o) = nav.finish ticket o := by
  cases o <;> rfl

theorem exact_ofList {nodes : List Node} (h : ∀ n ∈ nodes, n.Exact) {page size : UInt32}
    {p : ResultPage Node} (hp : ResultPage.ofList nodes page size = .ok p) : p.Exact := by
  unfold ResultPage.ofList at hp
  split at hp
  · cases hp
  · dsimp only at hp
    split at hp
    · cases hp
    · injection hp with hp
      rw [← hp]
      intro n hn
      exact h n (List.mem_of_mem_drop (List.mem_of_mem_take hn))

theorem message_ofList {nodes : List Node} {page size : UInt32} {e : Error}
    (h : ResultPage.ofList nodes page size = .error e) : Text.isBlankString e.message = false := by
  unfold ResultPage.ofList at h
  split at h
  · injection h with h
    rw [← h]
    decide
  · dsimp only at h
    split at h
    · injection h with h
      rw [← h]
      simp [Error.message, Text.isBlankString, Text.isBlank]
    · cases h

theorem relays_outcome {nodes : List Node} (hexact : ∀ n ∈ nodes, n.Exact) {failure : Option Error}
    (hfailure : ∀ e ∈ failure, Text.isBlankString e.message = false) {query : String}
    {page size : UInt32} (hnesting : ∀ p, outcome nodes failure query page size = .ok p →
      (p.value Node.value).nesting ≤ 127) :
    Relays (outcome nodes failure query page size) := by
  cases failure with
  | some e => exact hfailure e rfl
  | none =>
    cases ho : ResultPage.ofList (nodesMatching nodes query) page size with
    | error e =>
      rw [outcome, ho]
      exact message_ofList ho
    | ok p =>
      have hmatching : ∀ n ∈ nodesMatching nodes query, n.Exact := fun n hn =>
        hexact n (List.mem_of_mem_filter hn)
      rw [outcome, ho]
      exact ⟨exact_ofList hmatching ho, hnesting p ho⟩

theorem prepare_pageCall {site : Site} {timeout : Nat} {userAgent : String} {client : Client}
    (hclient : Client.ofConfig ⟨site.address, timeout, userAgent⟩ = .ok client) {ticket : Ticket}
    (hsize : ticket.size ≠ 0)
    (hlength : (client.requestAddress (Client.pageCall ticket)).length ≤ Url.maxLength) :
    ∃ request, client.prepare (Client.pageCall ticket) = .ok request ∧
      request.parameters = (Client.pageCall ticket).parameters := by
  obtain ⟨request, hrequest, hparameters⟩ := Site.request_of_call hclient _ hlength
  have hrefusal : (Client.pageCall ticket).refusal? = none := if_neg hsize
  refine ⟨request, ?_, hparameters⟩
  unfold Client.prepare
  rw [hrefusal, hrequest]
  rfl

theorem step_alike {site : Site} {timeout : Nat} {userAgent : String} {client : Client}
    (hclient : Client.ofConfig ⟨site.address, timeout, userAgent⟩ = .ok client) {nodes : List Node}
    (hexact : ∀ n ∈ nodes, n.Exact) {nav : Navigator} (hnav : nav.requestedSize ≠ 0) {d : Deed}
    (hsize : ∀ page size, d.action = .load page size → size ≠ 0)
    (hfailure : ∀ e ∈ d.failure, Text.isBlankString e.message = false)
    (hnesting : ∀ p ∈ (memoryStep nodes nav d).1.page, (p.value Node.value).nesting ≤ 127)
    (hlength : ∀ ticket ∈ (memoryStep nodes nav d).2,
      (client.requestAddress (Client.pageCall ticket)).length ≤ Url.maxLength) :
    Alike (memoryStep nodes nav d) (remoteStep client nodes nav d) ∧
      (memoryStep nodes nav d).1.requestedSize ≠ 0 := by
  cases hs : nav.start d.action with
  | mk nav' made =>
    cases made with
    | none =>
      obtain ⟨hremote, hrequests⟩ := @remoteStep_idle client nodes _ _ _ hs
      rw [memoryStep_idle hs]
      refine ⟨⟨hremote, ?_⟩, ?_⟩
      · rw [hrequests]
        rfl
      · rwa [Navigator.start_idle hs]
    | some ticket =>
      obtain ⟨haccepts, htarget, hrequested⟩ := Navigator.start_load hs
      have hticket : ticket.size ≠ 0 :=
        Navigator.size_ne_zero (by rwa [Navigator.requestedSize_prepared]) hsize htarget
      rw [memoryStep_load hs] at hnesting hlength ⊢
      obtain ⟨request, hprepare, hparameters⟩ :=
        prepare_pageCall hclient hticket (hlength ticket (by simp))
      obtain ⟨hremote, hrequests⟩ := @remoteStep_load client nodes _ _ _ _ _ hs hprepare
      have hrelays : Relays (outcome nodes d.failure ticket.query ticket.page ticket.size) := by
        refine relays_outcome hexact hfailure fun p hp => hnesting p ?_
        simp [hp, Navigator.finish, haccepts]
      obtain ⟨hresult, honce⟩ := Service.conclude_answer client ticket.query ticket.page ticket.size
        request hrelays
      rw [Service.serve_nodes nodes d.failure hparameters] at hremote hrequests
      refine ⟨⟨?_, ?_⟩, ?_⟩
      · rw [hremote, Client.pageCall, hresult, finish_relayed]
      · rw [hrequests, Client.pageCall, honce]
        exact congrArg (fun ps => [ps]) hparameters
      · rw [Navigator.requestedSize_finish, hrequested]
        exact hticket

theorem run_alike {site : Site} {timeout : Nat} {userAgent : String} {client : Client}
    (hclient : Client.ofConfig ⟨site.address, timeout, userAgent⟩ = .ok client) {nodes : List Node}
    (hexact : ∀ n ∈ nodes, n.Exact) {nav : Navigator} (hnav : nav.requestedSize ≠ 0)
    {ds : List Deed} (hsize : ∀ d ∈ ds, ∀ page size, d.action = .load page size → size ≠ 0)
    (hfailure : ∀ d ∈ ds, ∀ e ∈ d.failure, Text.isBlankString e.message = false)
    (hnesting : ∀ s ∈ memoryRun nodes nav ds, ∀ p ∈ s.1.page, (p.value Node.value).nesting ≤ 127)
    (hlength : ∀ s ∈ memoryRun nodes nav ds, ∀ ticket ∈ s.2,
      (client.requestAddress (Client.pageCall ticket)).length ≤ Url.maxLength) :
    List.Forall₂ Alike (memoryRun nodes nav ds) (remoteRun client nodes nav ds) := by
  -- What carries the run is that no page of size zero is asked for; the service would refuse it.
  induction ds generalizing nav with
  | nil => exact .nil
  | cons d ds ih =>
    rw [memoryRun, List.forall_mem_cons] at hnesting hlength
    rw [List.forall_mem_cons] at hsize hfailure
    obtain ⟨halike, hnext⟩ :=
      step_alike hclient hexact hnav hsize.1 hfailure.1 hnesting.1 hlength.1
    refine .cons halike ?_
    rw [halike.1]
    exact ih hnext hsize.2 hfailure.2 hnesting.2 hlength.2

/-- A listing over a service goes through the same states as one over the nodes themselves, and asks
for the same pages, as long as no address of a request is too long. -/
theorem remote_run_alike {site : Site} {timeout : Nat} {userAgent : String} {client : Client}
    (hclient : Client.ofConfig ⟨site.address, timeout, userAgent⟩ = .ok client) {nodes : List Node}
    (hexact : ∀ n ∈ nodes, n.Exact) {ds : List Deed}
    (hsize : ∀ d ∈ ds, ∀ page size, d.action = .load page size → size ≠ 0)
    (hfailure : ∀ d ∈ ds, ∀ e ∈ d.failure, Text.isBlankString e.message = false)
    (hnesting : ∀ s ∈ memoryRun nodes .new ds, ∀ p ∈ s.1.page, (p.value Node.value).nesting ≤ 127)
    (hlength : ∀ s ∈ memoryRun nodes .new ds, ∀ ticket ∈ s.2,
      (client.requestAddress (Client.pageCall ticket)).length ≤ 65534) :
    List.Forall₂ Alike (memoryRun nodes .new ds) (remoteRun client nodes .new ds) :=
  run_alike hclient hexact (by decide) hsize hfailure hnesting hlength

def loopbackClient : Client := ⟨Client.trimSlashes Site.loopback.address, 30000, "depview/0.1.0"⟩

theorem requestAddress_loopback (ticket : Ticket) :
    loopbackClient.requestAddress (Client.pageCall ticket) =
      "http://127.0.0.1:8080/api/nodes?" ++
        String.ofList (Url.Form.encode (Client.pageCall ticket).parameters) := by
  have haddress : loopbackClient.address (Client.pageCall ticket) =
      "http://" ++ Site.loopback.server ++ String.ofList "/api/nodes".toList := by
    change Client.trimSlashes "http://127.0.0.1:8080/api/" ++ "/" ++ "nodes" = _
    decide
  have hroot : Url.Rooted "/api/nodes".toList := .inr ⟨_, rfl⟩
  have hparse : Url.parse (loopbackClient.address (Client.pageCall ticket)) =
      .ok (.web (Url.onServer Site.loopback.place ["api", "nodes"])) := by
    rw [haddress, Site.loopback.parse_path hroot (Url.forall_mem_of_all (by decide))]
    rfl
  have hne : (Client.pageCall ticket).parameters ≠ [] := by simp [Client.pageCall, Call.parameters]
  have hfront : "http" ++ "://" ++ Url.User.nobody.text ++ Site.loopback.place.1.text ++
      (":" ++ toString 8080) ++ String.join ["/api", "/nodes"] ++ "?" =
        "http://127.0.0.1:8080/api/nodes?" := by decide
  rw [Client.requestAddress, hparse]
  dsimp only
  rw [Url.withParameters_eq rfl hne, ← hfront]
  generalize String.ofList (Url.Form.encode (Client.pageCall ticket).parameters) = query
  change "http" ++ "://" ++ Url.User.nobody.text ++ Site.loopback.place.1.text ++
    (":" ++ toString 8080) ++ (String.join ["/api", "/nodes"] ++ ("?" ++ query)) ++ "" = _
  simp only [String.append_assoc, String.append_empty]

def twoNodes : List Node := [{ name := "a&b" }, { name := "c" }]

def interrupted : List Deed :=
  [⟨.load 0 1, none⟩, ⟨.next, some (.remoteFetch "down")⟩, ⟨.submit "a&b", none⟩]

theorem remote_run_alike_interrupted :
    (∀ n ∈ twoNodes, n.Exact) ∧
    (∀ d ∈ interrupted, ∀ page size, d.action = .load page size → size ≠ 0) ∧
    (∀ d ∈ interrupted, ∀ e ∈ d.failure, Text.isBlankString e.message = false) ∧
    (∀ s ∈ memoryRun twoNodes .new interrupted, ∀ p ∈ s.1.page,
      (p.value Node.value).nesting ≤ 127) ∧
    (∀ s ∈ memoryRun twoNodes .new interrupted, ∀ ticket ∈ s.2,
      (loopbackClient.requestAddress (Client.pageCall ticket)).length ≤ 65534) ∧
    List.Forall₂ Alike (memoryRun twoNodes .new interrupted)
      (remoteRun loopbackClient twoNodes .new interrupted) := by
  have hexact : ∀ n ∈ twoNodes, n.Exact := by
    simp only [twoNodes, List.forall_mem_cons]
    exact ⟨⟨trivial, trivial, trivial, trivial, trivial⟩,
      ⟨trivial, trivial, trivial, trivial, trivial⟩, by simp⟩
  have hsize : ∀ d ∈ interrupted, ∀ page size, d.action = .load page size → size ≠ 0 := by
    simp [interrupted]
  have hfailure : ∀ d ∈ interrupted, ∀ e ∈ d.failure, Text.isBlankString e.message = false := by
    simp only [interrupted, List.forall_mem_cons]
    decide
  have hpages : ∀ s ∈ memoryRun twoNodes .new interrupted, ∀ p ∈ s.1.page,
      (p.value Node.value).nesting ≤ 127 := by decide +kernel
  have htickets : (memoryRun twoNodes .new interrupted).flatMap Prod.snd =
      [⟨1, "", 0, 1⟩, ⟨2, "", 1, 1⟩, ⟨3, "a&b", 0, 1⟩] := by decide +kernel
  have hshort : ∀ ticket ∈ (memoryRun twoNodes .new interrupted).flatMap Prod.snd,
      ("http://127.0.0.1:8080/api/nodes?" ++
        String.ofList (Url.Form.encode (Client.pageCall ticket).parameters)).length ≤ 65534 := by
    rw [htickets]
    decide +kernel
  have hlength : ∀ s ∈ memoryRun twoNodes .new interrupted, ∀ ticket ∈ s.2,
      (loopbackClient.requestAddress (Client.pageCall ticket)).length ≤ 65534 := by
    intro s hs ticket hticket
    rw [requestAddress_loopback]
    exact hshort ticket (List.mem_flatMap.mpr ⟨s, hs, hticket⟩)
  exact ⟨hexact, hsize, hfailure, hpages, hlength,
    remote_run_alike Site.ofConfig_loopback hexact hsize hfailure hpages hlength⟩

theorem memoryRun_submit (query : String) : memoryRun [] .new [⟨.submit query, none⟩] =
    [({ query := query, page := some (.empty 30), generation := 1 }, [⟨1, query, 0, 30⟩])] := by
  have hstart : Navigator.new.start (.submit query) =
      ({ query := query, generation := 1 }, some ⟨1, query, 0, 30⟩) := rfl
  have hpage : ResultPage.ofList ([] : List Node) 0 30 = .ok (.empty 30) := by rfl
  rw [memoryRun, memoryStep_load (d := ⟨.submit query, none⟩) hstart]
  have houtcome : outcome [] none query 0 30 = .ok (.empty 30) := hpage
  simp only [houtcome]
  rfl

theorem requests_submit {site : Site} {timeout : Nat} {userAgent : String} {client : Client}
    (hclient : Client.ofConfig ⟨site.address, timeout, userAgent⟩ = .ok client) {query : String}
    (hquery : Url.maxLength < query.length) (nodes : List Node) :
    (remoteStep client nodes .new ⟨.submit query, none⟩).requests = [] := by
  have hne : query.isEmpty = false := by
    cases he : query.isEmpty with
    | false => rfl
    | true =>
      rw [String.isEmpty_iff.mp he] at hquery
      exact absurd hquery (Nat.not_lt_zero Url.maxLength)
  have hmem : ("q", query) ∈ (Client.pageCall ⟨1, query, 0, 30⟩).parameters := by
    simp [Client.pageCall, Call.parameters, hne]
  have hlength := Site.length_requestAddress hclient hmem
  obtain ⟨e, he⟩ := Site.request_too_long hclient (Client.pageCall ⟨1, query, 0, 30⟩)
    (Nat.lt_of_lt_of_le hquery hlength)
  have hstart : Navigator.new.start (.submit query) =
      ({ query := query, generation := 1 }, some ⟨1, query, 0, 30⟩) := rfl
  have hprepare : client.prepare (Client.pageCall ⟨1, query, 0, 30⟩) =
      .error { result := .error e, events := [.get, .transportFailure] } := by
    have hrefusal : (Client.pageCall ⟨1, query, 0, 30⟩).refusal? = none := rfl
    rw [Client.prepare, hrefusal]
    simp only [he, Except.mapError]
  simp only [remoteStep, Client.perform, hstart, Client.ask, hprepare]
  rfl

theorem not_alike_endlessName :
    Client.ofConfig ⟨Site.loopback.address, 30000, "depview/0.1.0"⟩ = .ok loopbackClient ∧
    (∀ s ∈ memoryRun [] .new [⟨.submit Site.endlessName, none⟩], ∀ p ∈ s.1.page,
      (p.value Node.value).nesting ≤ 127) ∧
    ¬ List.Forall₂ Alike (memoryRun [] .new [⟨.submit Site.endlessName, none⟩])
      (remoteRun loopbackClient [] .new [⟨.submit Site.endlessName, none⟩]) := by
  have hlong : Url.maxLength < Site.endlessName.length := by
    rw [Site.length_endlessName]
    decide
  have hrequests : (remoteStep loopbackClient [] .new ⟨.submit Site.endlessName, none⟩).requests = [] :=
    requests_submit Site.ofConfig_loopback hlong []
  rw [memoryRun_submit]
  generalize Site.endlessName = query at hrequests ⊢
  refine ⟨Site.ofConfig_loopback, ?_, ?_⟩
  · simp only [List.mem_singleton, forall_eq, Option.mem_some, forall_eq']
    decide
  · intro h
    rw [remoteRun, List.forall₂_cons] at h
    have hsame := h.1.2
    rw [hrequests] at hsame
    exact List.cons_ne_nil _ _ hsame.symm

end GraphBrowser.Listing
