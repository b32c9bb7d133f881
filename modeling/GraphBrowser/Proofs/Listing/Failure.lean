import GraphBrowser.Client.Basic
import GraphBrowser.Proofs.Client.Rejection
import GraphBrowser.Proofs.Listing.Superseded

namespace GraphBrowser.Listing

open Client (pageCall)

/-- An outcome that a load has over a service. -/
def Fetched (outcome : PageOutcome) : Prop :=
  ∃ (client : Client) (send : Request → Reply) (ticket : Ticket),
    outcome = (client.asked send (pageCall ticket)).1.result

def Readable (nav : Navigator) : Prop := ∀ m ∈ nav.errorMessage, Text.isBlankString m = false

variable {nav nav' : Navigator} {ticket : Ticket} {outcome : PageOutcome}

theorem readable_new : Readable .new := by
  intro m hm
  cases hm

theorem Fetched.not_blank (h : Fetched outcome) {e : Error} (he : outcome = .error e) :
    Text.isBlankString e.message = false := by
  obtain ⟨client, send, ticket, rfl⟩ := h
  exact Client.failure_not_blank he

theorem finish_readable (h : Readable nav) (ho : Fetched outcome) (ticket : Ticket) :
    Readable (nav.finish ticket outcome) := by
  unfold Navigator.finish
  split
  · cases outcome with
    | ok page => exact nofun
    | error e =>
      intro m hm
      obtain rfl := Option.some.inj hm
      exact ho.not_blank rfl
  · exact h

theorem step_readable {s : Session} (h : Readable s.nav) {move : Move}
    (hmove : ∀ i outcome, move = .finish i outcome → Fetched outcome) : Readable (s.step move).nav := by
  cases move with
  | setQuery query => exact h
  | «begin» page size => exact h
  | finish i outcome =>
    simp only [Session.step]
    split
    · exact h
    · exact finish_readable h (hmove i outcome rfl) _

theorem run_readable {s : Session} (h : Readable s.nav) {moves : List Move}
    (hmoves : ∀ i outcome, .finish i outcome ∈ moves → Fetched outcome) :
    Readable (s.run moves).nav := by
  induction moves generalizing s with
  | nil => exact h
  | cons move moves ih =>
    have hstep := step_readable h fun i outcome hmove => hmoves i outcome (hmove ▸ List.mem_cons_self)
    exact ih hstep fun i outcome hmem => hmoves i outcome (List.mem_cons_of_mem move hmem)

theorem finish_failed (h : nav.accepts ticket = true) (e : Error) :
    (nav.finish ticket (.error e)).errorMessage = some e.message := by
  simp only [Navigator.finish, h, if_true]

theorem perform_load {client : Client} {action : Action} (h : nav.start action = (nav', some ticket))
    (send : Request → Reply) :
    (Id.run (client.perform (fun request => pure (send request)) nav action)).nav =
      nav'.finish ticket (client.asked send (pageCall ticket)).1.result := by
  simp only [Client.perform, h, Client.ask, Client.asked]
  cases client.prepare (pageCall ticket) <;> rfl

/-- A rejected call fails with what the reply says, and no failing call has a blank message. A listing
over the service shows these messages as they are. -/
theorem failures_are_told (client : Client) (send : Request → Reply) :
    (∀ {α : Type} (call : Call α) (request : Request) (status : Nat) (body : List UInt8),
      (client.asked send call).2 = [request] → send request = .response status body →
      ¬ (200 ≤ status ∧ status < 300) →
      ∃ text, (∀ other, Reply.Chosen status (Reply.bodyText body) other ↔ other = text) ∧
        (client.asked send call).1.result = .error (Client.rejected text call) ∧
        (Client.rejected text call).message = text) ∧
    (∀ {α : Type} (call : Call α) (e : Error), (client.asked send call).1.result = .error e →
      Text.isBlankString e.message = false) ∧
    (∀ (ticket : Ticket) (e : Error), (client.asked send (pageCall ticket)).1.result = .error e →
      (∀ nav : Navigator, nav.accepts ticket = true →
        (nav.finish ticket (client.asked send (pageCall ticket)).1.result).errorMessage =
          some e.message) ∧
      ∀ (nav nav' : Navigator) (action : Action), nav.start action = (nav', some ticket) →
        (Id.run (client.perform (fun request => pure (send request)) nav action)).nav.errorMessage =
          some e.message) ∧
    (∀ moves : List Move, (∀ i outcome, .finish i outcome ∈ moves → Fetched outcome) →
      Readable (Session.run {} moves).nav) := by
  refine ⟨fun call request status body hsent hreply hstatus => ?_,
    fun call e => Client.failure_not_blank, fun ticket e hfailed => ?_,
    fun moves => run_readable readable_new⟩
  · refine ⟨_, fun other => ?_, Client.asked_rejected hsent hreply hstatus,
      Client.message_rejected _ call⟩
    exact Reply.chosen_iff.trans eq_comm
  · rw [hfailed]
    refine ⟨fun nav haccepts => finish_failed haccepts e, fun nav nav' action hstart => ?_⟩
    rw [perform_load hstart, hfailed]
    exact finish_failed (Navigator.start_load hstart).1 e

/-- A body that tells something only under its second key, with white space around it. -/
def spacedMembers : List (String × Json.Value) := [("message", .string " "), ("error", .string " x ")]

theorem spacedMembers_chosen (status : Nat) :
    Reply.Chosen status (Json.Value.object spacedMembers).text " x " := by
  have hcompact : Json.Compact (Json.Value.object spacedMembers).verbatim (.object spacedMembers) :=
    Json.compact_object
      (.cons ⟨_, rfl, Json.compact_string _⟩ (.cons ⟨_, rfl, Json.compact_string _⟩ .nil))
  have hmembers : Reply.HasMembers (Json.Value.object spacedMembers).text spacedMembers :=
    ⟨1, by decide, hcompact.text⟩
  refine .error hmembers ?_ ⟨rfl, by decide⟩
  rintro other ⟨hlast, hblank⟩
  obtain rfl : " " = other := Json.Value.string.inj (Option.some.inj hlast)
  exact absurd hblank (by decide)

theorem failures_are_told_spaced :
    ∃ client, Client.ofConfig ⟨Site.loopback.address, 30000, "depview/0.1.0"⟩ = .ok client ∧
      (Id.run (client.perform (fun _ => pure (.response 404
        (Text.utf8Bytes (Json.Value.object spacedMembers).print))) .new (.load 0 30))).nav.errorMessage =
        some " x " := by
  refine ⟨_, Site.ofConfig_loopback, ?_⟩
  generalize hbody : Text.utf8Bytes (Json.Value.object spacedMembers).print = body
  have htext : Reply.bodyText body = (Json.Value.object spacedMembers).text := by
    rw [← hbody, Reply.bodyText_utf8Bytes]
    rfl
  have hcall : ¬ (pageCall ⟨1, "", 0, 30⟩).LacksArgument := by simp [pageCall, Call.LacksArgument]
  obtain ⟨request, hasked⟩ :=
    Site.asked_once Site.ofConfig_loopback (fun _ => .response 404 body) hcall (by decide +kernel)
  obtain ⟨hrejected, -, hfailed, -⟩ := failures_are_told
    ⟨Client.trimSlashes Site.loopback.address, 30000, "depview/0.1.0"⟩ fun _ => .response 404 body
  obtain ⟨text, hchosen, hresult, hmessage⟩ := hrejected (pageCall ⟨1, "", 0, 30⟩) request 404 body
    (congrArg Prod.snd hasked) rfl (by decide)
  rw [htext] at hchosen
  obtain rfl := (hchosen " x ").mp (spacedMembers_chosen 404)
  have hshown := (hfailed ⟨1, "", 0, 30⟩ _ hresult).2 .new _ (.load 0 30) rfl
  rw [hshown, hmessage]

end GraphBrowser.Listing
