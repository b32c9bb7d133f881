import GraphBrowser.Proofs.Client.Sending
import GraphBrowser.Proofs.Url.Authority
import GraphBrowser.Proofs.Url.Target

namespace GraphBrowser

/-- Where a service is: a server, as an address names it by host and port, and a path on it. -/
structure Site where
  server : String
  path : String
  place : Url.Host × Option Nat
  server_eq : Url.server server.toList = .ok place
  named : Url.NamesServer server.toList
  visible : ∀ c ∈ server.toList, 0x20 < c.toNat
  sendable : place.1.text.toList.any (fun c => "\"\x60\x7b\x7d".toList.contains c) = false
  rooted : Url.Rooted path.toList
  plain : ∀ c ∈ path.toList, c.isAlphanum = true ∨ c = '/'

namespace Site

def address (site : Site) : String := "http://" ++ site.server ++ site.path

def loopback : Site where
  server := "127.0.0.1:8080"
  path := "/api/"
  place := (.ipv4 0x7f000001, some 8080)
  server_eq := by decide +kernel
  named := ⟨by decide, Url.forall_mem_of_all (by decide)⟩
  visible := Url.forall_mem_of_all (by decide)
  sendable := by decide
  rooted := .inr ⟨_, rfl⟩
  plain := Url.forall_mem_of_all (by decide)

theorem visible_of_plain {c : Char} (h : c.isAlphanum = true ∨ c = '/') :
    0x20 < c.toNat ∧ c ≠ '?' ∧ c ≠ '#' := by
  refine ⟨?_, ?_, ?_⟩
  · rcases h with h | rfl
    · have hall : ∀ n ≤ 0x20, (Char.ofNat n).isAlphanum = false := by decide
      by_contra hn
      have hfalse := hall c.toNat (by omega)
      rw [Char.ofNat_toNat, h] at hfalse
      cases hfalse
    · decide
  · rintro rfl
    revert h
    decide
  · rintro rfl
    revert h
    decide

theorem parse_path (site : Site) {cs : List Char} (hroot : Url.Rooted cs)
    (hplain : ∀ c ∈ cs, c.isAlphanum = true ∨ c = '/') :
    Url.parse ("http://" ++ site.server ++ String.ofList cs) =
      .ok (.web (Url.onServer site.place (Url.pathOf cs))) := by
  have htext : "http://" ++ site.server ++ String.ofList cs =
      "http:" ++ String.ofList ('/' :: '/' :: (site.server.toList ++ cs)) := by
    apply String.ext
    simp
  have hvisible : ∀ c ∈ '/' :: '/' :: (site.server.toList ++ cs), 0x20 < c.toNat := by
    simp only [List.forall_mem_cons, List.forall_mem_append]
    exact ⟨by decide, by decide, site.visible, fun c hc => (visible_of_plain (hplain c hc)).1⟩
  rw [htext, Url.parse_http hvisible,
    Url.parseWeb_server site.named hroot fun c hc => (visible_of_plain (hplain c hc)).2,
    site.server_eq]
  rfl

theorem trimSlashes_append (front : List Char) {c : Char} (hc : c ≠ '/') (path : List Char) :
    ∃ p, p <+: path ∧ Client.trimSlashes (String.ofList (front ++ c :: path)) =
      String.ofList (front ++ c :: p) := by
  have hdrop : (path.reverse ++ c :: front.reverse).dropWhile (· = '/') =
      path.reverse.dropWhile (· = '/') ++ c :: front.reverse := by
    rw [List.dropWhile_append]
    split
    · rename_i h
      simp [List.isEmpty_iff.mp h, hc]
    · rfl
  have hpath : path = (path.reverse.dropWhile (· = '/')).reverse ++
      (path.reverse.takeWhile (· = '/')).reverse := by
    rw [← List.reverse_append, List.takeWhile_append_dropWhile, List.reverse_reverse]
  refine ⟨(path.reverse.dropWhile (· = '/')).reverse, ⟨_, hpath.symm⟩, ?_⟩
  have htext : (front ++ c :: path).reverse = path.reverse ++ c :: front.reverse := by simp
  rw [Client.trimSlashes, String.toList_ofList, htext, hdrop]
  simp

/-- Without slashes at its end the address still is that of a path on the server. -/
theorem trimSlashes_address (site : Site) :
    ∃ cs, Client.trimSlashes site.address = "http://" ++ site.server ++ String.ofList cs ∧
      Url.Rooted cs ∧ ∀ c ∈ cs, c.isAlphanum = true ∨ c = '/' := by
  obtain ⟨hne, hname⟩ := site.named
  obtain ⟨server, c, hserver⟩ := (List.eq_nil_or_concat site.server.toList).resolve_left hne
  have hc : c ≠ '/' := by
    rintro rfl
    exact absurd (hname '/' (by simp [hserver])).1 (by decide)
  have htext : ∀ cs, String.ofList ("http://".toList ++ server ++ c :: cs) =
      "http://" ++ site.server ++ String.ofList cs := by
    intro cs
    apply String.ext
    simp [hserver]
  obtain ⟨p, hpre, htrim⟩ := trimSlashes_append ("http://".toList ++ server) hc site.path.toList
  refine ⟨p, ?_, ?_, fun c hc => site.plain c (hpre.subset hc)⟩
  · rw [htext, htext, String.ofList_toList] at htrim
    exact htrim
  · cases p with
    | nil => exact .inl rfl
    | cons d p =>
      obtain ⟨tail, htail⟩ := hpre
      rcases site.rooted with h | ⟨t, h⟩
      · rw [h] at htail
        cases htail
      · rw [h] at htail
        injection htail with hd _
        exact .inr ⟨p, by rw [hd]⟩

theorem ofConfig_address {site : Site} {timeout : Nat} {userAgent : String} {client : Client}
    (h : Client.ofConfig ⟨site.address, timeout, userAgent⟩ = .ok client) :
    client.baseUrl = Client.trimSlashes site.address :=
  (Client.ofConfig_cases h).2

theorem ofConfig_eq (site : Site) {timeout : Nat} (ht : timeout ≠ 0) {userAgent : String}
    (hagent : userAgent.toList.all Config.isHeaderChar = true) :
    Client.ofConfig ⟨site.address, timeout, userAgent⟩ =
      .ok ⟨Client.trimSlashes site.address, timeout, userAgent⟩ := by
  have hparse := site.parse_path site.rooted site.plain
  rw [String.ofList_toList] at hparse
  have hvalid : Config.validate ⟨site.address, timeout, userAgent⟩ = .ok () := by
    simp only [Config.validate, Config.check, address, hparse, if_neg ht]
    rfl
  simp only [Client.ofConfig, hvalid, bind, Except.bind, hagent, if_true]
  rfl

theorem ofConfig_loopback : Client.ofConfig ⟨loopback.address, 30000, "depview/0.1.0"⟩ =
    .ok ⟨Client.trimSlashes loopback.address, 30000, "depview/0.1.0"⟩ :=
  loopback.ofConfig_eq (by decide) (by decide)

theorem plain_endpoint (call : Call α) : ∀ c ∈ call.endpoint.toList, c.isAlphanum = true := by
  have hall : call.endpoint.toList.all Char.isAlphanum = true := by
    cases call <;> simp only [Call.endpoint] <;> decide
  exact List.all_eq_true.mp hall

theorem address_call {site : Site} {client : Client} {cs : List Char} (call : Call α)
    (h : client.baseUrl = "http://" ++ site.server ++ String.ofList cs) :
    client.address call =
      "http://" ++ site.server ++ String.ofList (cs ++ '/' :: call.endpoint.toList) := by
  apply String.ext
  simp [Client.address, h]

end Site

theorem Url.User.credentials_nobody : nobody.credentials? = none := by
  simp [credentials?, nobody, decodePart?, percentDecode, Text.decode?, Text.decodePieces]

def Request.parameters (r : Request) : Url.Form.Parameters :=
  Url.Form.decode (Text.cut '?' r.target.toList).2

def Client.requestAddress (client : Client) (call : Call α) : String :=
  match Url.parse (client.address call) with
  | .ok (.web url) => (url.withParameters call.parameters).text
  | _ => ""

namespace Site

variable {site : Site} {timeout : Nat} {userAgent : String} {client : Client}

theorem parse_address (h : Client.ofConfig ⟨site.address, timeout, userAgent⟩ = .ok client)
    (call : Call α) :
    ∃ cs, Url.parse (client.address call) = .ok (.web (Url.onServer site.place (Url.pathOf cs))) := by
  obtain ⟨cs, htrim, hroot, hcs⟩ := site.trimSlashes_address
  refine ⟨cs ++ '/' :: call.endpoint.toList, ?_⟩
  rw [address_call call ((ofConfig_address h).trans htrim)]
  apply site.parse_path
  · rcases hroot with rfl | ⟨t, rfl⟩
    · exact .inr ⟨_, rfl⟩
    · exact .inr ⟨_, rfl⟩
  · simp only [List.forall_mem_append, List.forall_mem_cons]
    exact ⟨hcs, by simp, fun c hc => .inl (plain_endpoint call c hc)⟩

theorem withoutCredentials_onServer (path : List String) (ps : Url.Form.Parameters) :
    ((Url.onServer site.place path).withParameters ps).withoutCredentials =
      (Url.onServer site.place path).withParameters ps :=
  if_neg (by simp [Url.onServer, Url.withParameters, Url.User.credentials_nobody])

theorem sentAddress_eq (h : Client.ofConfig ⟨site.address, timeout, userAgent⟩ = .ok client)
    (call : Call α) : client.sentAddress call = client.requestAddress call := by
  obtain ⟨cs, hparse⟩ := parse_address h call
  simp only [Client.sentAddress, Client.requestAddress, hparse, withoutCredentials_onServer]

theorem url_request (h : Client.ofConfig ⟨site.address, timeout, userAgent⟩ = .ok client)
    {call : Call α} {request : Request} (hrequest : client.request call = .ok request) :
    ∃ path, (∀ segment ∈ path, '?' ∉ segment.toList) ∧
      request.url = (Url.onServer site.place path).withParameters call.parameters := by
  obtain ⟨cs, hparse⟩ := parse_address h call
  obtain ⟨url, hurl, hsent⟩ := Client.request_eq_ok hrequest
  cases hparse.symm.trans hurl
  exact ⟨_, Url.question_not_mem_pathOf cs, hsent.trans (withoutCredentials_onServer _ _)⟩

theorem parameters_request (h : Client.ofConfig ⟨site.address, timeout, userAgent⟩ = .ok client)
    {call : Call α} {request : Request} (hrequest : client.request call = .ok request) :
    request.parameters = call.parameters := by
  obtain ⟨path, hpath, hurl⟩ := url_request h hrequest
  rw [Request.parameters, Request.target, hurl]
  exact Url.parameters_target rfl hpath call.parameters

/-- A call is sent if its address is not too long, with its parameters as they are. -/
theorem request_of_call (h : Client.ofConfig ⟨site.address, timeout, userAgent⟩ = .ok client)
    (call : Call α) (hlength : (client.requestAddress call).length ≤ Url.maxLength) :
    ∃ request, client.request call = .ok request ∧ request.parameters = call.parameters := by
  obtain ⟨cs, hparse⟩ := parse_address h call
  rw [← sentAddress_eq h] at hlength
  obtain ⟨request, hrequest⟩ := Client.request_of_sendable hparse site.sendable hlength
  exact ⟨request, hrequest, parameters_request h hrequest⟩

theorem length_requestAddress
    (h : Client.ofConfig ⟨site.address, timeout, userAgent⟩ = .ok client) {call : Call α}
    {p : String × String} (hp : p ∈ call.parameters) :
    p.2.length ≤ (client.requestAddress call).length := by
  obtain ⟨cs, hparse⟩ := parse_address h call
  rw [Client.requestAddress, hparse]
  exact Url.length_le_text rfl hp

theorem request_too_long (h : Client.ofConfig ⟨site.address, timeout, userAgent⟩ = .ok client)
    (call : Call α) (hlength : Url.maxLength < (client.requestAddress call).length) :
    ∃ e, client.request call = .error e := by
  rw [← sentAddress_eq h] at hlength
  exact Client.request_of_excess call hlength

end Site

end GraphBrowser
