import GraphBrowser.Client.Basic

namespace GraphBrowser

theorem Client.ofConfig_cases {c : Config} {client : Client} (h : ofConfig c = .ok client) :
    c.validate = .ok () ∧ client.baseUrl = trimSlashes c.baseUrl := by
  unfold ofConfig at h
  cases hv : c.validate with
  | error e =>
    rw [hv] at h
    cases h
  | ok _ =>
    rw [hv] at h
    simp only [bind, Except.bind] at h
    split at h
    · rw [← Except.ok.inj h]
      exact ⟨rfl, rfl⟩
    · cases h

def Url.Host.IsSendable (host : Host) : Prop :=
  host.text.toList.any (fun c => "\"\x60\x7b\x7d".toList.contains c) = false

instance (host : Url.Host) : Decidable host.IsSendable := inferInstanceAs (Decidable (_ = _))

namespace Url

theorem isSendable_of_length {u : Url} (hhost : u.host.IsSendable)
    (hlength : u.text.length ≤ maxLength) : u.isSendable = true := by
  unfold Host.IsSendable at hhost
  simp only [isSendable, hhost, decide_eq_true hlength]
  rfl

theorem host_withoutCredentials (u : Url) : u.withoutCredentials.host = u.host := by
  unfold withoutCredentials
  split <;> rfl

end Url

namespace Client

variable {client : Client} {call : Call α}

/-- The address to which the request for a call is sent; credentials are not part of it. -/
def sentAddress (client : Client) (call : Call α) : String :=
  match Url.parse (client.address call) with
  | .ok (.web url) => (url.withParameters call.parameters).withoutCredentials.text
  | _ => ""

theorem request_eq_ok {request : Request} (h : client.request call = .ok request) :
    ∃ url, Url.parse (client.address call) = .ok (.web url) ∧
      request.url = (url.withParameters call.parameters).withoutCredentials := by
  simp only [Client.request] at h
  split at h
  · rename_i url hparse
    split at h
    · rw [← Except.ok.inj h]
      exact ⟨url, hparse, rfl⟩
    · cases h
  · cases h

theorem request_of_sendable {url : Url} (hparse : Url.parse (client.address call) = .ok (.web url))
    (hhost : url.host.IsSendable) (hlength : (client.sentAddress call).length ≤ Url.maxLength) :
    ∃ request, client.request call = .ok request := by
  rw [sentAddress, hparse] at hlength
  have hsendable : (url.withParameters call.parameters).withoutCredentials.isSendable = true := by
    refine Url.isSendable_of_length ?_ hlength
    rw [Url.host_withoutCredentials]
    exact hhost
  unfold Client.request
  simp only [hparse, hsendable]
  exact ⟨_, rfl⟩

theorem request_of_excess (call : Call α) (h : Url.maxLength < (client.sentAddress call).length) :
    ∃ e, client.request call = .error e := by
  unfold sentAddress at h
  split at h
  · rename_i url hparse
    have hsendable :
        (url.withParameters call.parameters).withoutCredentials.isSendable = false := by
      rw [Url.isSendable, decide_eq_false (Nat.not_le.mpr h), Bool.and_false]
    unfold Client.request
    simp only [hparse, hsendable]
    exact ⟨_, rfl⟩
  · exact absurd h (Nat.not_lt_zero _)

end Client

end GraphBrowser
