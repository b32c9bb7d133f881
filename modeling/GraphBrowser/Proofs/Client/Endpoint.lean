import GraphBrowser.Proofs.Client.Outcome
import GraphBrowser.Proofs.Url.Appended

namespace GraphBrowser

def Request.path (r : Request) : List Char := (Text.cut '?' r.target.toList).1

/-- An address that a path can be appended to: with one slash at its end it is an address, too, and a
request can name its host. -/
def Url.Extensible (base : String) : Prop :=
  ∃ url, parse (Client.trimSlashes base ++ "/") = .ok (.web url) ∧ url.host.IsSendable

theorem Call.endpoint_kept (call : Call α) :
    Url.encoded Url.keepInPath call.endpoint.toList = call.endpoint := by
  cases call <;> simp only [endpoint] <;> decide

theorem Call.endpoint_visible (call : Call α) : ∀ c ∈ call.endpoint.toList, Url.isLow c = false :=
  fun c hc => decide_eq_false
    (Nat.not_le.mpr (Site.visible_of_plain (.inl (Site.plain_endpoint call c hc))).1)

theorem Call.pathOf_endpoint (call : Call α) (cs : List Char) :
    ∃ front, Url.pathOf (cs ++ '/' :: call.endpoint.toList) = front ++ [call.endpoint] := by
  have hlast : ∃ front, Url.pathOf (cs ++ '/' :: call.endpoint.toList) =
      front ++ [Url.encoded Url.keepInPath call.endpoint.toList] := by
    refine Url.pathOf_last ?_ ?_ ?_ ?_ cs <;> cases call <;> simp only [endpoint] <;> decide
  rwa [call.endpoint_kept] at hlast

theorem Call.plain_endpoint (call : Call α) : ∀ c ∈ call.endpoint.toList, c ≠ '?' ∧ c ≠ '#' :=
  fun c hc => (Site.visible_of_plain (.inl (Site.plain_endpoint call c hc))).2

namespace Url

theorem suffix_target {u : Url} (hquery : u.query = none) {front : List String} {name : String}
    (hpath : u.path = front ++ [name]) (hplain : ∀ segment ∈ u.path, '?' ∉ segment.toList)
    (ps : Form.Parameters) :
    '/' :: name.toList <:+ (Text.cut '?' (u.withParameters ps).target.toList).1 := by
  rw [cut_target hquery hplain, hpath]
  refine ⟨(String.join (front.map fun segment => "/" ++ segment)).toList, ?_⟩
  simp

theorem extensible_of_visible {base : String} {url : Url} (h : parse base = .ok (.web url))
    (hhost : url.host.IsSendable) (hvisible : ∀ c ∈ base.toList.getLast?, isLow c = false) :
    Extensible base := by
  obtain ⟨secure, name, behind, slashes, low, server, hserver, rfl, -, -, -, hclosed, happended⟩ :=
    parse_appended h
  have hempty : low = [] := by
    rcases hclosed with hempty | ⟨c, hc, hlow⟩
    · exact hempty
    · rw [hvisible c hc] at hlow
      cases hlow
  have hslash := happended [] nofun
  rw [hempty, List.append_nil, hserver] at hslash
  split at hslash
  · exact ⟨_, hslash, hhost⟩
  · exact ⟨_, hslash, hhost⟩

end Url

namespace Client

variable {config : Config} {client : Client} {call : Call α}

theorem parse_base (h : ofConfig config = .ok client) :
    ∃ url, Url.parse config.baseUrl = .ok (.web url) := by
  have hvalid := (ofConfig_cases h).1
  unfold Config.validate Config.check at hvalid
  cases hparse : Url.parse config.baseUrl with
  | error e => simp [hparse, Except.mapError] at hvalid
  | ok parsed =>
    cases parsed with
    | web url => exact ⟨url, rfl⟩
    | other scheme => simp [hparse, Except.mapError] at hvalid

theorem address_appended (h : ofConfig config = .ok client) (call : Call α) :
    client.address call =
      trimSlashes config.baseUrl ++ String.ofList ('/' :: call.endpoint.toList) := by
  apply String.ext
  simp [address, (ofConfig_cases h).2]

/-- The address of a call is a path to its endpoint, on a server that may not be there: the server of
the base URL, unless a blank is appended to its name. -/
theorem parse_endpoint (h : ofConfig config = .ok client)
    (hplain : ∀ c ∈ config.baseUrl.toList, c ≠ '?' ∧ c ≠ '#') (call : Call α) :
    ∃ (secure : Bool) (cs : List Char)
        (found : Except Url.ParseError (Url.User × Url.Host × Option Nat)),
      (∀ c ∈ cs, c ≠ '?' ∧ c ≠ '#') ∧
      Url.parse (client.address call) = (found.map fun server =>
        .web (Url.addressed secure server (cs ++ '/' :: call.endpoint.toList))) ∧
      (Url.Extensible config.baseUrl → ∃ server, found = .ok server ∧ server.2.1.IsSendable) := by
  obtain ⟨url, hparse⟩ := parse_base h
  obtain ⟨secure, name, behind, slashes, low, server, hserver, rfl, hbehind, -, hlow, -, happended⟩ :=
    Url.parse_appended hparse
  have haddress := happended call.endpoint.toList call.endpoint_visible
  rw [← address_appended h call] at haddress
  have hslash := happended [] nofun
  by_cases hnil : behind = []
  · rw [if_pos hnil] at haddress hslash
    refine ⟨secure, [], Url.named (name ++ low), nofun, haddress, fun ⟨url, hurl, hhost⟩ => ?_⟩
    obtain ⟨found, hfound, hweb⟩ := map_eq_ok.mp (hslash.symm.trans hurl)
    cases hweb
    exact ⟨found, hfound, hhost⟩
  · refine ⟨secure, behind ++ low, .ok server, ?_, ?_, fun ⟨url, hurl, hhost⟩ => ?_⟩
    · refine List.forall_mem_append.mpr ⟨fun c hc => hplain c (hbehind c hc), fun c hc => ?_⟩
      constructor
      · rintro rfl
        exact absurd (hlow '?' hc) (by decide)
      · rintro rfl
        exact absurd (hlow '#' hc) (by decide)
    · rw [haddress, if_neg hnil, List.append_assoc]
      rfl
    · rw [if_neg hnil] at hslash
      cases hslash.symm.trans hurl
      exact ⟨server, rfl, hhost⟩

theorem target_request (h : ofConfig config = .ok client)
    (hplain : ∀ c ∈ config.baseUrl.toList, c ≠ '?' ∧ c ≠ '#') {request : Request}
    (hrequest : client.request call = .ok request) :
    '/' :: call.endpoint.toList <:+ request.path ∧ request.parameters = call.parameters := by
  obtain ⟨secure, cs, found, hcs, hparse, -⟩ := parse_endpoint h hplain call
  obtain ⟨url, hurl, hsent⟩ := request_eq_ok hrequest
  obtain ⟨server, -, hserver⟩ := map_eq_ok.mp (hparse.symm.trans hurl)
  have hbehind : ∀ c ∈ cs ++ '/' :: call.endpoint.toList, c ≠ '?' ∧ c ≠ '#' := by
    rw [List.forall_mem_append, List.forall_mem_cons]
    exact ⟨hcs, by decide, call.plain_endpoint⟩
  rw [Url.addressed_path secure server hbehind] at hserver
  injection hserver with hserver
  obtain ⟨front, hfront⟩ := call.pathOf_endpoint cs
  rw [Request.path, Request.parameters, Request.target, hsent, Url.target_withoutCredentials,
    ← hserver]
  have hsegments := Url.question_not_mem_pathOf (cs ++ '/' :: call.endpoint.toList)
  exact ⟨Url.suffix_target rfl hfront hsegments _, Url.parameters_target rfl hsegments _⟩

theorem request_of_length (h : ofConfig config = .ok client)
    (hplain : ∀ c ∈ config.baseUrl.toList, c ≠ '?' ∧ c ≠ '#')
    (hextensible : Url.Extensible config.baseUrl) (call : Call α)
    (hlength : (client.sentAddress call).length ≤ Url.maxLength) :
    ∃ request, client.request call = .ok request := by
  obtain ⟨secure, cs, found, -, hparse, hfound⟩ := parse_endpoint h hplain call
  obtain ⟨server, rfl, hhost⟩ := hfound hextensible
  exact request_of_sendable hparse hhost hlength

/-- A base URL with neither a query nor a fragment leads every call to its endpoint. Where a path can be
appended to it, a call that has its arguments makes one request, unless the address of that is too
long. -/
theorem endpoint_reached (h : ofConfig config = .ok client)
    (hplain : ∀ c ∈ config.baseUrl.toList, c ≠ '?' ∧ c ≠ '#') (send : Request → Reply)
    (call : Call α) :
    (∀ request ∈ (client.asked send call).2, '/' :: call.endpoint.toList <:+ request.path) ∧
    (Url.Extensible config.baseUrl → ¬ call.LacksArgument →
      (client.sentAddress call).length ≤ 65534 →
      ∃ request, (client.asked send call).2 = [request]) ∧
    (65534 < (client.sentAddress call).length → (client.asked send call).2 = []) := by
  refine ⟨fun request hsent => (target_request h hplain (request_of_sent hsent)).1, ?_, ?_⟩
  · intro hextensible hcall hlength
    obtain ⟨request, hrequest⟩ := request_of_length h hplain hextensible call hlength
    exact ⟨request, congrArg Prod.snd (asked_sent (Call.refusal_eq_none.mpr hcall) hrequest)⟩
  · intro hlength
    obtain ⟨e, he⟩ := request_of_excess call hlength
    refine List.eq_nil_iff_forall_not_mem.mpr fun request hsent => ?_
    rw [request_of_sent hsent] at he
    cases he

theorem endpoint_reached_crooked :
    ∃ client, ofConfig ⟨"https://me:secret@g//a/../api //", 30000, "depview/0.1.0"⟩ =
        .ok client ∧
      ∃ request, (client.asked (fun _ => .fault .timedOut) (.edge "a" "b")).2 = [request] ∧
        "/edge".toList <:+ request.path := by
  have hparse : Url.parse "https://me:secret@g//a/../api //" =
      .ok (.web ⟨true, ⟨"me", "secret"⟩, .domain "g", none, ["", "api%20", "", ""], none,
        none⟩) := by
    decide +kernel
  have hconfig : ofConfig ⟨"https://me:secret@g//a/../api //", 30000, "depview/0.1.0"⟩ =
      .ok ⟨"https://me:secret@g//a/../api ", 30000, "depview/0.1.0"⟩ := by
    decide +kernel
  have hlast : "https://me:secret@g//a/../api //".toList.getLast? = some '/' := rfl
  have hextensible : Url.Extensible "https://me:secret@g//a/../api //" := by
    refine Url.extensible_of_visible hparse (by decide) ?_
    rw [hlast]
    rintro c ⟨⟩
    rfl
  obtain ⟨hpath, hsent, -⟩ := endpoint_reached hconfig (Url.forall_mem_of_all (by decide))
    (fun _ => .fault .timedOut) (.edge "a" "b")
  obtain ⟨request, hrequest⟩ := hsent hextensible (by simp [Call.LacksArgument]) (by decide +kernel)
  refine ⟨_, hconfig, request, hrequest, hpath request ?_⟩
  rw [hrequest]
  exact List.mem_singleton_self request

/-- Whether each call that has its arguments makes one request, which is for its endpoint. -/
def Reaches (client : Client) : Prop :=
  ∀ (send : Request → Reply) {α : Type} (call : Call α), ¬ call.LacksArgument →
    ∃ request, (client.asked send call).2 = [request] ∧
      '/' :: call.endpoint.toList <:+ request.path

theorem not_reaches (hcall : ¬ call.LacksArgument)
    (h : ∀ request, client.request call = .ok request →
      ¬ '/' :: call.endpoint.toList <:+ request.path) : ¬ client.Reaches := by
  intro hreaches
  obtain ⟨request, hasked, hsuffix⟩ := hreaches (fun _ => .fault .timedOut) call hcall
  have hsent : request ∈ (client.asked (fun _ => .fault .timedOut) call).2 := by
    rw [hasked]
    exact List.mem_singleton_self request
  exact h request (request_of_sent hsent) hsuffix

/-- A query or a fragment takes up the name of the endpoint, a blank behind the server becomes part of
its name, no request can name some hosts, and some addresses are too long. -/
theorem endpoint_missed :
    (∀ base ∈ ["http://g/api?x=1", "http://g/api#top", "http://g ", "http://\x7b"],
      ∃ client, ofConfig ⟨base, 30000, "depview/0.1.0"⟩ = .ok client ∧ ¬ client.Reaches) ∧
    ∃ client, ofConfig ⟨Site.loopback.address, 30000, "depview/0.1.0"⟩ = .ok client ∧
      ¬ client.Reaches := by
  constructor
  · intro base hbase
    have hmissed : ∀ base ∈ ["http://g/api?x=1", "http://g/api#top", "http://g ", "http://\x7b"],
        ofConfig ⟨base, 30000, "depview/0.1.0"⟩ = .ok ⟨base, 30000, "depview/0.1.0"⟩ ∧
          (request ⟨base, 30000, "depview/0.1.0"⟩ .info).toOption.all
            (fun request => !("/info".toList.isSuffixOf request.path)) = true := by
      decide +kernel
    obtain ⟨hconfig, hpath⟩ := hmissed base hbase
    refine ⟨_, hconfig, @not_reaches _ _ .info id fun request hrequest hsuffix => ?_⟩
    rw [hrequest] at hpath
    simp only [Except.toOption, Option.all_some, Bool.not_eq_true'] at hpath
    exact absurd (List.isSuffixOf_iff_suffix.mpr hsuffix) (Bool.eq_false_iff.mp hpath)
  · have hmem : ("name", Site.endlessName) ∈ (Call.node Site.endlessName).parameters :=
      List.mem_singleton_self _
    obtain ⟨e, he⟩ := Site.request_endless hmem
    refine ⟨_, Site.ofConfig_loopback, @not_reaches _ _ (.node Site.endlessName)
      Site.endlessName_ne_empty fun request hrequest => ?_⟩
    rw [he] at hrequest
    cases hrequest

end Client

end GraphBrowser
