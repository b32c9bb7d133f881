import GraphBrowser.Listing.Navigator
import GraphBrowser.Proofs.Listing.Step

namespace GraphBrowser.Listing

/-- Following links one after the other, each of them offered where it is followed. -/
inductive Follows (fetch : Ticket → PageOutcome) : Navigator → List UInt32 → Navigator → Prop where
  | nil (nav : Navigator) : Follows fetch nav [] nav
  | cons {nav last : Navigator} {link : UInt32} {links : List UInt32} (offered : link ∈ nav.window)
      (rest : Follows fetch (stepWith fetch nav (.goTo link)).1 links last) :
      Follows fetch nav (link :: links) last

variable {nodes found : List Node} {query : String} {nav : Navigator} {size : UInt32} {i : Nat}

theorem At.served (hat : At query (nodesMatching nodes query) size i nav) :
    Served (fetchFrom nodes) query (nodesMatching nodes query) size := by
  obtain ⟨p, -, -, hcut⟩ := hat.cut
  refine ⟨UInt32.lt_iff_toNat_lt.mpr hcut.size_pos, ?_, ?_⟩
  · rw [← hcut.totalPages_eq]
    exact Nat.le_of_lt_succ p.totalPages.toNat_lt
  · intro ticket hquery hticket
    rw [fetchFrom, hquery, hticket]

theorem At.link_range (hat : At query found size i nav) {link : UInt32} (h : link ∈ nav.window) :
    0 < link.toNat ∧ link.toNat ≤ found.length ⌈/⌉ size.toNat := by
  obtain ⟨p, hp, -, hcut⟩ := hat.cut
  rw [← hcut.totalPages_eq]
  exact window_range hp h

theorem At.link_near (hat : At query found size i nav) {link : UInt32} (hpos : 0 < link.toNat)
    (hlink : link.toNat ≤ found.length ⌈/⌉ size.toNat) (hleft : i ≤ link.toNat)
    (hright : link.toNat ≤ i + 2) : link ∈ nav.window := by
  obtain ⟨p, hp, rfl, hcut⟩ := hat.cut
  rw [← hcut.totalPages_eq] at hlink
  simp only [Navigator.window, hp]
  exact Window.mem_pages_near (by decide) hpos hlink hleft hright

theorem At.goTo_shown (hat : At query (nodesMatching nodes query) size i nav) {link : UInt32}
    (h : link ∈ nav.window) : Shown query (nodesMatching nodes query) size (link.toNat - 1)
      (stepWith (fetchFrom nodes) nav (.goTo link)) := by
  have hpos := (hat.link_range h).1
  rw [← toNat_sub_one hpos]
  exact hat.served.shown hat rfl (target_goTo hpos)

theorem At.in_range (hat : At query found size i nav) (hi : i < found.length ⌈/⌉ size.toNat) :
    ∃ p, nav.page = some p ∧ p.number.toNat = i ∧ p.isConsistent = true ∧ p.size = size ∧
      p.content ≠ [] ∧ ∀ link : UInt32, link.toNat = i + 1 →
        nav.isActive link = true ∧ link ∈ nav.window := by
  obtain ⟨p, hp, rfl, hcut⟩ := hat.cut
  have hrange : p.number.toNat < p.totalPages.toNat := by rwa [hcut.totalPages_eq]
  refine ⟨p, hp, rfl, hcut.isConsistent_iff.mpr (lt_max_of_lt_left hrange), hcut.size_eq,
    hcut.content_ne_nil_iff.mpr hrange, fun link hlink => ⟨?_, ?_⟩⟩
  · obtain rfl : link = p.number + 1 := by
      rw [← UInt32.toNat_inj, hlink, toNat_next (UInt32.lt_iff_toNat_lt.mpr hrange)]
    simp only [Navigator.isActive, hp, ResultPage.isActive, decide_true]
  · exact hat.link_near (by omega) (by omega) (by omega) (by omega)

theorem At.follows (n : Nat) {a b : Nat} (hat : At query (nodesMatching nodes query) size a nav)
    (ha : a < (nodesMatching nodes query).length ⌈/⌉ size.toNat)
    (hb : b < (nodesMatching nodes query).length ⌈/⌉ size.toNat) (hleft : a ≤ b + n)
    (hright : b ≤ a + n) :
    ∃ links last, Follows (fetchFrom nodes) nav links last ∧
      At query (nodesMatching nodes query) size b last := by
  -- The induction is on the distance; one link to a neighbour makes it smaller.
  induction n generalizing a nav with
  | zero =>
    have he : a = b := by omega
    subst he
    exact ⟨[], nav, .nil nav, hat⟩
  | succ n ih =>
    have hcount := hat.served.count_le
    have hmove : ∀ c, c < (nodesMatching nodes query).length ⌈/⌉ size.toNat → a ≤ c + 1 → c ≤ a + 1 →
        c ≤ b + n → b ≤ c + n → ∃ links last, Follows (fetchFrom nodes) nav links last ∧
          At query (nodesMatching nodes query) size b last := by
      intro c hc hac hca hcb hbc
      have hlink : (UInt32.ofNat (c + 1)).toNat = c + 1 :=
        UInt32.toNat_ofNat_of_lt' (Nat.lt_succ_of_le (Nat.le_trans hc hcount))
      have hoffered : UInt32.ofNat (c + 1) ∈ nav.window :=
        hat.link_near (by omega) (by omega) (by omega) (by omega)
      have hnext := (hat.goTo_shown hoffered).position
      rw [hlink, Nat.add_sub_cancel] at hnext
      obtain ⟨links, last, hfollows, hlast⟩ := ih hnext hc hcb hbc
      exact ⟨_, last, .cons hoffered hfollows, hlast⟩
    rcases Nat.lt_trichotomy a b with h | h | h
    · exact hmove (a + 1) (by omega) (by omega) (by omega) (by omega) (by omega)
    · exact hmove a ha (by omega) (by omega) (by omega) (by omega)
    · exact hmove (a - 1) (by omega) (by omega) (by omega) (by omega) (by omega)

/-- Every link leads, by one load, to a page of the listing, which has a link to itself in turn. From
every page of the listing every other one can be reached by links. -/
theorem links_lead_everywhere {nodes : List Node} {nav : Navigator} {shown : ResultPage Node}
    {size : UInt32} (hshown : nav.page = some shown)
    (hcut : ResultPage.ofList (nodesMatching nodes nav.query) shown.number size = .ok shown) :
    (∀ link ∈ nav.window, ∃ next p ticket,
      stepWith (fetchFrom nodes) nav (.goTo link) = (next, [ticket]) ∧ next.page = some p ∧
      p.isConsistent = true ∧ p.number.toNat + 1 = link.toNat ∧ p.size = shown.size ∧
      p.content ≠ [] ∧ next.isActive link = true ∧ link ∈ next.window) ∧
    (shown.number.toNat < shown.totalPages.toNat → ∀ b < shown.totalPages.toNat,
      ∃ links last p, Follows (fetchFrom nodes) nav links last ∧ last.page = some p ∧
        p.number.toNat = b ∧
        ResultPage.ofList (nodesMatching nodes nav.query) p.number size = .ok p) := by
  have hat : At nav.query (nodesMatching nodes nav.query) size shown.number.toNat nav :=
    ⟨rfl, shown, hshown, rfl, hcut⟩
  have hpages := ResultPage.cut_of_ofList hcut
  rw [hpages.totalPages_eq]
  refine ⟨fun link hlink => ?_, fun ha b hb => ?_⟩
  · obtain ⟨hpos, hle⟩ := hat.link_range hlink
    have hnext := hat.goTo_shown hlink
    obtain ⟨ticket, hticket, -⟩ := hnext.load
    obtain ⟨p, hp, hi, hconsistent, hsize, hcontent, hself⟩ := hnext.position.in_range (by omega)
    obtain ⟨hactive, hwindow⟩ := hself link (by omega)
    exact ⟨_, p, ticket, Prod.ext rfl hticket, hp, hconsistent, by omega,
      hsize.trans hpages.size_eq.symm, hcontent, hactive, hwindow⟩
  · obtain ⟨links, last, hfollows, hlast⟩ :=
      hat.follows (shown.number.toNat + b) ha hb (by omega) (by omega)
    obtain ⟨p, hp, hi, hcutp⟩ := hlast.shown
    exact ⟨links, last, p, hfollows, hp, hi, hcutp⟩

def twelveNodes : List Node := (List.range 12).map fun i => { name := toString i }

def firstOfTwelve : ResultPage Node where
  content := [{ name := "0" }]
  number := 0
  size := 1
  totalElements := 12
  totalPages := 12
  numberOfElements := 1
  first := true
  last := false

theorem links_lead_everywhere_twelveNodes :
    ResultPage.ofList (nodesMatching twelveNodes "") 0 1 = .ok firstOfTwelve ∧
    (12 : UInt32) ∉ Navigator.window { page := some firstOfTwelve } ∧
    ∃ links last p, Follows (fetchFrom twelveNodes) { page := some firstOfTwelve } links last ∧
      last.page = some p ∧ p.number.toNat = 11 ∧
      ResultPage.ofList (nodesMatching twelveNodes "") p.number 1 = .ok p := by
  have hcut : ResultPage.ofList (nodesMatching twelveNodes "") 0 1 = .ok firstOfTwelve := by rfl
  have hlinks := @links_lead_everywhere twelveNodes { page := some firstOfTwelve } _ 1 rfl hcut
  exact ⟨hcut, by decide, hlinks.2 (by decide) 11 (by decide)⟩

end GraphBrowser.Listing
