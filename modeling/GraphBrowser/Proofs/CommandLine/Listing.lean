import GraphBrowser.Proofs.Client.Endpoint
import GraphBrowser.Proofs.CommandLine.Arguments
import GraphBrowser.Proofs.CommandLine.Outcome
import GraphBrowser.Proofs.Listing.Paging
import GraphBrowser.Proofs.Listing.Remote
import GraphBrowser.Proofs.Report.Lines

namespace GraphBrowser.CommandLine

variable {b : Build} {nodes : List Node} {query : String} {size : UInt32} {options : Options}
  {apiUrl : Option String} {client : Client}

theorem ofNat_pos {p : Nat} (hpos : 0 < p) (hlt : p < 2 ^ 32) : 0 < UInt32.ofNat p := by
  rw [UInt32.lt_iff_toNat_lt, UInt32.toNat_ofNat_of_lt' hlt]
  exact hpos

theorem ofNat_sub_one {p : Nat} (hpos : 0 < p) (hle : p ≤ maxWord32) :
    UInt32.ofNat p - 1 = UInt32.ofNat (p - 1) ∧ (UInt32.ofNat (p - 1)).toNat = p - 1 := by
  have hmax : maxWord32 < UInt32.size := by decide
  have hlow : (UInt32.ofNat (p - 1)).toNat = p - 1 := UInt32.toNat_ofNat_of_lt' (by omega)
  have hhigh : (UInt32.ofNat p).toNat = p := UInt32.toNat_ofNat_of_lt' (by omega)
  have hone : (1 : UInt32) ≤ UInt32.ofNat p := by
    rw [UInt32.le_iff_toNat_le, hhigh]
    exact hpos
  refine ⟨?_, hlow⟩
  rw [← UInt32.toNat_inj, UInt32.toNat_sub_of_le _ _ hone, hlow, hhigh]
  rfl

/-- Pages that are asked for by numbers from 1 have numbers with a next one. -/
theorem not_overflows {page : UInt32} (hpage : 0 < page) {found : List Node} {p : ResultPage Node}
    (hp : ResultPage.ofList found (page - 1) size = .ok p) : ¬ p.Overflows b := by
  rintro ⟨-, hmax, -⟩
  have hlt := page.toNat_lt
  have hpos : 0 < page.toNat := UInt32.lt_iff_toNat_lt.mp hpage
  rw [(ResultPage.cut_of_ofList hp).number_eq, UInt32.toNat_sub_of_le] at hmax
  · have hword : maxWord32 = 4294967295 := rfl
    rw [UInt32.toNat_one, hword] at hmax
    omega
  · exact UInt32.le_iff_toNat_le.mpr hpos

theorem ran_nodes (hexact : ∀ n ∈ nodes, n.Exact)
    (hclient : Client.ofConfig (options.config apiUrl) = .ok client)
    (hplain : ∀ c ∈ (options.config apiUrl).baseUrl.toList, c ≠ '?' ∧ c ≠ '#')
    (hextensible : Url.Extensible (options.config apiUrl).baseUrl) {args : List String}
    {page : UInt32} (hpage : 0 < page)
    (hread : read args = .ok ⟨options, .nodes query page size⟩)
    (hlength : (client.sentAddress (.nodes query (page - 1) size)).length ≤ Url.maxLength)
    {p : ResultPage Node} (hp : ResultPage.ofList (nodesMatching nodes query) (page - 1) size = .ok p)
    (hnesting : (p.value Node.value).nesting ≤ 127) :
    (ran b (fun _ => Service.serve nodes none) apiUrl args).1.exitCode = 0 ∧
      (ran b (fun _ => Service.serve nodes none) apiUrl args).1.output = Report.listing p ∧
      ∃ request, (ran b (fun _ => Service.serve nodes none) apiUrl args).2 = [request] ∧
        '/' :: "nodes".toList <:+ request.path ∧
        request.parameters = (Call.nodes query (page - 1) size).parameters := by
  have hsize : size ≠ 0 := by
    rintro rfl
    cases hp
  obtain ⟨request, hrequest⟩ := Client.request_of_length hclient hplain hextensible _ hlength
  obtain ⟨hpath, hparameters⟩ := Client.target_request hclient hplain hrequest
  have hrelays : Service.Relays (Service.outcome nodes none query (page - 1) size) := by
    refine Listing.relays_outcome hexact (by simp) fun p' hp' => ?_
    cases hp.symm.trans hp'
    exact hnesting
  have hresult : (client.conclude (.nodes query (page - 1) size) request
      (Service.serve nodes none request)).result = .ok p := by
    rw [Service.serve_nodes nodes none hparameters,
      (Service.conclude_answer client query (page - 1) size request hrelays).1, Service.outcome, hp]
    rfl
  have hasked : client.asked (Service.serve nodes none) (.nodes query (page - 1) size) =
      (client.conclude (.nodes query (page - 1) size) request (Service.serve nodes none request),
        [request]) := Client.asked_sent (if_neg hsize) hrequest
  obtain ⟨hconcludes, hrequests⟩ :=
    @ran_accepted b (fun _ => Service.serve nodes none) _ _ _ _ ⟨hread, hclient⟩
  simp only [Command.question, hasked] at hconcludes hrequests
  obtain ⟨hcode, houtput, -⟩ := hconcludes.shown p hresult (not_overflows hpage hp)
  exact ⟨hcode, houtput, request, hrequests, hpath, hparameters⟩

/-- A run that would have to send its request to an address that is too long sends nothing and fails. -/
theorem ran_nodes_excess (answer : Nat → Request → Reply)
    (hclient : Client.ofConfig (options.config apiUrl) = .ok client) {args : List String}
    {page : UInt32} (hread : read args = .ok ⟨options, .nodes query page size⟩) (hsize : size ≠ 0)
    (hlength : Url.maxLength < (client.sentAddress (.nodes query (page - 1) size)).length) :
    (ran b answer apiUrl args).1.exitCode = 1 ∧ (ran b answer apiUrl args).2 = [] := by
  obtain ⟨e, he⟩ := Client.request_of_excess _ hlength
  have hasked : client.asked (answer 0) (.nodes query (page - 1) size) =
      ({ result := .error e, events := [.get, .transportFailure] }, []) :=
    Client.asked_unsendable (if_neg hsize) he
  obtain ⟨hconcludes, hrequests⟩ := @ran_accepted b answer _ _ _ _ ⟨hread, hclient⟩
  simp only [Command.question, hasked] at hconcludes hrequests
  exact ⟨(hconcludes.failed e rfl).1, hrequests⟩

theorem pageCount_le (hcount : nodes.length < 2 ^ 32) (query : String) (hsize : 0 < size) :
    (nodesMatching nodes query).length ⌈/⌉ size.toNat ≤ maxWord32 := by
  have hpos : 0 < size.toNat := UInt32.lt_iff_toNat_lt.mp hsize
  have hfound : (nodesMatching nodes query).length ≤ nodes.length := List.length_filter_le _ _
  have hmax : 2 ^ 32 = maxWord32 + 1 := by decide
  rw [ceilDiv_le_iff_le_mul hpos]
  calc (nodesMatching nodes query).length ≤ 1 * maxWord32 := by omega
    _ ≤ size.toNat * maxWord32 := Nat.mul_le_mul_right _ hpos

theorem flatMap_names (found : List Node) {n : Nat} (hn : 0 < n) :
    (List.range' 1 (found.length ⌈/⌉ n)).flatMap
        (fun p => (ResultPage.slice found (p - 1) n).map (·.name)) = found.map (·.name) := by
  have hall : found.length ≤ (found.length ⌈/⌉ n) * n := by
    rw [Nat.mul_comm]
    exact (ceilDiv_le_iff_le_mul hn).mp (Nat.le_refl _)
  rw [List.range'_eq_map_range, List.flatMap_map]
  simp only [Nat.add_sub_cancel_left]
  rw [← List.map_flatMap, ResultPage.flatMap_slice, List.take_of_length_le hall]

theorem body_page {found : List Node} (hnames : ∀ n ∈ found, Report.IsLine n.name) {number : UInt32}
    {p : ResultPage Node} (hcut : p.Cut found number size) : Report.body (Report.listing p) =
      if found.length ⌈/⌉ size.toNat ≤ number.toNat then ["(no nodes)"]
      else (ResultPage.slice found number.toNat size.toNat).map (·.name) := by
  have hlines : ∀ n ∈ p.content, Report.IsLine n.name := by
    rw [hcut.content_eq]
    exact fun n hn => hnames n (List.mem_of_mem_drop (List.mem_of_mem_take hn))
  have hempty : p.content.isEmpty = true ↔ found.length ⌈/⌉ size.toNat ≤ number.toNat := by
    rw [List.isEmpty_iff, ← not_iff_not, Nat.not_le, ← hcut.totalPages_eq]
    exact hcut.content_ne_nil_iff
  rw [Report.body_listing hlines, ← hcut.content_eq]
  simp only [hempty]

theorem nesting_ofList {found : List Node} {n : Nat} (h : ∀ x ∈ found, x.value.nesting ≤ n)
    {number : UInt32} {p : ResultPage Node} (hp : ResultPage.ofList found number size = .ok p) :
    (p.value Node.value).nesting ≤ n + 2 := by
  have hitems : Json.itemsNesting (p.content.map Node.value) ≤ n := by
    refine Json.itemsNesting_le ?_
    rw [List.forall_mem_map, (ResultPage.cut_of_ofList hp).content_eq]
    exact fun x hx => h x (List.mem_of_mem_drop (List.mem_of_mem_take hx))
  simp only [ResultPage.value, Json.Value.nesting, Json.membersNesting]
  omega

/-- Asked for page by page, the names of all nodes that match are shown, each once and in order, and
behind the last page there are none. Every page takes one request, and fails if the address of that is
too long. -/
theorem pages_list_all (b : Build) (hexact : ∀ n ∈ nodes, n.Exact)
    (hnames : ∀ n ∈ nodes, Report.IsLine n.name) (hcount : nodes.length < 2 ^ 32) (hsize : 0 < size)
    (hnesting : ∀ number p, ResultPage.ofList (nodesMatching nodes query) number size = .ok p →
      (p.value Node.value).nesting ≤ 127)
    (hclient : Client.ofConfig (options.config apiUrl) = .ok client)
    (hplain : ∀ c ∈ (options.config apiUrl).baseUrl.toList, c ≠ '?' ∧ c ≠ '#')
    (hextensible : Url.Extensible (options.config apiUrl).baseUrl) {args : Nat → List String}
    (hread : ∀ p, 0 < p → p < 2 ^ 32 →
      read (args p) = .ok ⟨options, .nodes query (.ofNat p) size⟩) :
    let found := nodesMatching nodes query
    let total := found.length ⌈/⌉ size.toNat
    let short (p : Nat) : Prop :=
      (client.sentAddress (.nodes query (.ofNat (p - 1)) size)).length ≤ 65534
    let out (p : Nat) := ran b (fun _ => Service.serve nodes none) apiUrl (args p)
    (∀ p, 0 < p → p < 2 ^ 32 → short p → (out p).1.exitCode = 0 ∧
      ∃ request, (out p).2 = [request] ∧ '/' :: "nodes".toList <:+ request.path ∧
        request.parameters = (Call.nodes query (.ofNat (p - 1)) size).parameters) ∧
    ((∀ p, 0 < p → p ≤ total → short p) →
      (List.range' 1 total).flatMap (fun p => Report.body (out p).1.output) = found.map (·.name)) ∧
    (∀ p, total < p → p < 2 ^ 32 → short p → Report.body (out p).1.output = ["(no nodes)"]) ∧
    ∀ p, 0 < p → p < 2 ^ 32 → ¬ short p → (out p).1.exitCode = 1 ∧ (out p).2 = [] := by
  intro found total short out
  have hpos : 0 < size.toNat := UInt32.lt_iff_toNat_lt.mp hsize
  have hmax : 2 ^ 32 = maxWord32 + 1 := by decide
  have htotal : total ≤ maxWord32 := pageCount_le hcount query hsize
  have hmatching : ∀ n ∈ found, Report.IsLine n.name := fun n hn =>
    hnames n (List.mem_of_mem_filter hn)
  have hrun : ∀ p, 0 < p → p < 2 ^ 32 → short p → (out p).1.exitCode = 0 ∧
      (∃ request, (out p).2 = [request] ∧ '/' :: "nodes".toList <:+ request.path ∧
        request.parameters = (Call.nodes query (.ofNat (p - 1)) size).parameters) ∧
      Report.body (out p).1.output = if total ≤ p - 1 then ["(no nodes)"]
        else (ResultPage.slice found (p - 1) size.toNat).map (·.name) := by
    intro p hp hlt hshort
    obtain ⟨hnumber, hindex⟩ := ofNat_sub_one hp (by omega)
    obtain ⟨shown, hshown⟩ := ResultPage.exists_ofList hsize htotal (UInt32.ofNat (p - 1))
    have hbody := body_page hmatching (ResultPage.cut_of_ofList hshown)
    rw [hindex] at hbody
    rw [← hnumber] at hshown
    obtain ⟨hcode, houtput, hrequest⟩ := @ran_nodes b _ _ _ _ _ _ hexact hclient hplain hextensible _ _
      (ofNat_pos hp hlt) (hread p hp hlt) (by rw [hnumber]; exact hshort) _ hshown (hnesting _ _ hshown)
    rw [hnumber] at hrequest
    rw [← houtput] at hbody
    exact ⟨hcode, hrequest, hbody⟩
  refine ⟨fun p hp hlt hshort => ?_, fun hshort => ?_, fun p hp hlt hshort => ?_,
    fun p hp hlt hlong => ?_⟩
  · obtain ⟨hcode, hrequest, -⟩ := hrun p hp hlt hshort
    exact ⟨hcode, hrequest⟩
  · rw [← flatMap_names found hpos]
    refine List.flatMap_congr fun p hp => ?_
    obtain ⟨hlow, hhigh⟩ := List.mem_range'_1.mp hp
    rw [(hrun p hlow (by omega) (hshort p hlow (by omega))).2.2, if_neg (by omega)]
  · rw [(hrun p (by omega) hlt hshort).2.2, if_pos (by omega)]
  · refine ran_nodes_excess _ hclient (hread p hp hlt) (UInt32.ne_of_lt hsize).symm ?_
    rw [(ofNat_sub_one hp (by omega)).1]
    exact Nat.not_le.mp hlong

open Listing (fourNodes)

theorem pages_list_all_fourNodes :
    (List.range' 1 2).flatMap (fun p => Report.body (ran .checked
      (fun _ => Service.serve fourNodes none) (some "http://g")
      ["nodes", "--query=b", "--page=" ++ toString p, "--size=2"]).1.output) = ["ab", "b", "bc"] := by
  have hexact : ∀ n ∈ fourNodes, n.Exact := by
    have hname : ∀ name, Node.Exact { name := name } := fun name =>
      ⟨trivial, trivial, trivial, trivial, trivial⟩
    simp only [fourNodes, List.forall_mem_cons]
    exact ⟨hname _, hname _, hname _, hname _, nofun⟩
  have hnames : ∀ n ∈ fourNodes, Report.IsLine n.name := by decide
  have hfound : nodesMatching fourNodes "b" =
      [{ name := "ab" }, { name := "b" }, { name := "bc" }] := by rfl
  have hnesting : ∀ number p, ResultPage.ofList (nodesMatching fourNodes "b") number 2 = .ok p →
      (p.value Node.value).nesting ≤ 127 := by
    intro number p hp
    have hnodes : ∀ n ∈ nodesMatching fourNodes "b", n.value.nesting ≤ 2 := by
      rw [hfound]
      decide
    have hpage := nesting_ofList hnodes hp
    omega
  have hslash : Url.parse (Client.trimSlashes "http://g" ++ "/") =
      .ok (.web ⟨false, .nobody, .domain "g", none, [""], none, none⟩) := by
    decide +kernel
  have hclient : Client.ofConfig (({} : Options).config (some "http://g")) =
      .ok ⟨"http://g", 30000, "depview/0.1.0"⟩ := by
    decide +kernel
  have hextensible : Url.Extensible "http://g" := ⟨_, hslash, by decide⟩
  have hread : ∀ p, 0 < p → p < 2 ^ 32 →
      read ["nodes", "--query=b", "--page=" ++ toString p, "--size=2"] =
        .ok ⟨{}, .nodes "b" (.ofNat p) 2⟩ := by
    intro p hp hlt
    have hnumber : (UInt32.ofNat p).toNat = p := UInt32.toNat_ofNat_of_lt' hlt
    have hargs := @read_nodes "b" _ 2 (ofNat_pos hp hlt) (by decide)
    rw [hnumber] at hargs
    exact hargs
  have htotal : (nodesMatching fourNodes "b").length ⌈/⌉ (2 : UInt32).toNat = 2 := by
    rw [hfound]
    rfl
  obtain ⟨-, hall, -, -⟩ := pages_list_all .checked hexact hnames (by decide) (by decide) hnesting
    hclient (Url.forall_mem_of_all (by decide)) hextensible hread
  dsimp only at hall
  rw [htotal, hfound] at hall
  refine hall fun p hp hle => ?_
  obtain rfl | rfl : p = 1 ∨ p = 2 := by omega
  · decide +kernel
  · decide +kernel

/-- With an endless query not even a listing of nothing is shown: there is no request, and the run
fails. -/
theorem page_missing_endlessName :
    ∃ args client, read args = .ok ⟨{}, .nodes Site.endlessName (.ofNat 1) 1⟩ ∧
      Client.ofConfig (({} : Options).config (some Site.loopback.address)) = .ok client ∧
      (nodesMatching [] Site.endlessName).length ⌈/⌉ (1 : UInt32).toNat < 1 ∧
      ∀ b, (ran b (fun _ => Service.serve [] none) (some Site.loopback.address) args).2 = [] ∧
        (ran b (fun _ => Service.serve [] none) (some Site.loopback.address) args).1.exitCode = 1 := by
  have hread := @read_nodes Site.endlessName 1 1 (by decide) (by decide)
  have hclient : Client.ofConfig (({} : Options).config (some Site.loopback.address)) =
      .ok ⟨Client.trimSlashes Site.loopback.address, 30000, "depview/0.1.0"⟩ :=
    Site.ofConfig_loopback
  have hmem : ("q", Site.endlessName) ∈ (Call.nodes Site.endlessName (1 - 1) 1).parameters := by
    simp [Call.parameters, Site.endlessName_ne_empty]
  obtain ⟨e, he⟩ := Site.request_endless hmem
  refine ⟨_, _, hread, hclient, by decide, fun b => ?_⟩
  obtain ⟨hconcludes, hrequests⟩ :=
    @ran_accepted b (fun _ => Service.serve [] none) _ _ _ _ ⟨hread, hclient⟩
  simp only [Command.question, Client.asked_unsendable rfl he] at hconcludes hrequests
  exact ⟨hrequests, (hconcludes.failed e rfl).1⟩

end GraphBrowser.CommandLine
