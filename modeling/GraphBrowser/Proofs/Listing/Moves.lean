import GraphBrowser.Proofs.Listing.Step

namespace GraphBrowser.Listing

/-- Whoever answers loads, an action makes one load, of one page in one size. -/
def Loads (nav : Navigator) (action : Action) (page size : UInt32) : Prop :=
  ∀ (m : Type → Type) [Monad m] (fetch : Ticket → m PageOutcome),
    nav.perform fetch action = do
      let (begun, ticket) := (nav.prepared action).begin page size
      return begun.finish ticket (← fetch ticket)

/-- Whoever answers loads, an action asks for nothing and changes nothing. -/
def Idle (nav : Navigator) (action : Action) : Prop :=
  ∀ (m : Type → Type) [Monad m] (fetch : Ticket → m PageOutcome),
    nav.perform fetch action = pure nav

/-- The moves on offer: to the next page and back, to both ends, and to where the links lead. -/
def Offered (nav : Navigator) : Action → Prop
  | .next | .previous | .last | .first => True
  | .goTo link => link ∈ nav.window
  | .setQuery _ | .load _ _ | .submit _ | .retry => False

variable {nav : Navigator} {action : Action} {page size : UInt32} {p : ResultPage Node}

theorem loads_of_target (h : (nav.prepared action).target? action = some (page, size)) :
    Loads nav action page size := by
  intro m _ fetch
  exact Navigator.perform_load (Navigator.start_of_target h)

theorem idle_of_target (hprepared : nav.prepared action = nav) (h : nav.target? action = none) :
    Idle nav action := by
  intro m _ fetch
  have hstart := Navigator.start_of_no_target (hprepared ▸ h)
  rw [hprepared] at hstart
  exact Navigator.perform_idle hstart

theorem Loads.noted (h : Loads nav action page size) (fetch : Ticket → PageOutcome) :
    (stepWith fetch nav action).2 = [((nav.prepared action).begin page size).2] := by
  simp only [stepWith, h (StateM (List Ticket))]
  rfl

theorem Idle.noted (h : Idle nav action) (fetch : Ticket → PageOutcome) :
    stepWith fetch nav action = (nav, []) := by
  simp only [stepWith, h (StateM (List Ticket))]
  rfl

theorem loads_iff : Loads nav action page size ↔
    (nav.prepared action).target? action = some (page, size) := by
  refine ⟨fun h => ?_, loads_of_target⟩
  -- Of all who may answer, the one who takes notes tells loads apart.
  have hnoted := h.noted fun _ => .error (.remoteFetch "")
  cases ht : (nav.prepared action).target? action with
  | none =>
    rw [stepWith_idle ht] at hnoted
    cases hnoted
  | some target =>
    obtain ⟨page', size'⟩ := target
    rw [stepWith_load ht] at hnoted
    injection hnoted with hticket
    injection hticket with _ _ hpage hsize
    rw [hpage, hsize]

theorem loads_iff_target (hprepared : nav.prepared action = nav) :
    Loads nav action page size ↔ nav.target? action = some (page, size) := by
  rw [loads_iff, hprepared]

theorem idle_of_nothing_asked {fetch : Ticket → PageOutcome}
    (hquery : ∀ query, action ≠ .setQuery query) (h : (stepWith fetch nav action).2 = []) :
    Idle nav action := by
  have ht : (nav.prepared action).target? action = none := by
    rw [Option.eq_none_iff_forall_ne_some]
    rintro ⟨page, size⟩ ht
    rw [stepWith_load ht] at h
    cases h
  cases action with
  | setQuery query => exact absurd rfl (hquery query)
  | submit query => cases ht
  | load | retry | first | last | previous | next | goTo => exact idle_of_target rfl ht

theorem some_target_iff {number used : UInt32} :
    some (number, used) = some (page, size) ↔ page.toNat = number.toNat ∧ size = used := by
  rw [Option.some.injEq, Prod.mk.injEq, ← UInt32.toNat_inj, @eq_comm _ page.toNat,
    @eq_comm _ size]

theorem loads_next_iff (hp : nav.page = some p) (hc : p.Consistent) :
    Loads nav .next page size ↔ p.number.toNat + 1 < p.totalPages.toNat ∧
      page.toNat = p.number.toNat + 1 ∧ size = nav.currentSize := by
  have htotal : p.totalPages.toNat ≤ maxWord32 := Nat.le_of_lt_succ p.totalPages.toNat_lt
  rw [loads_iff_target rfl, target_next hp]
  split
  · rename_i hlast
    rw [hc.last_iff] at hlast
    exact iff_of_false nofun fun h => Nat.not_lt.mpr hlast h.1
  · rename_i hlast
    rw [hc.last_iff, Nat.not_le] at hlast
    rw [some_target_iff, toNat_add_one (by omega), and_iff_right hlast]

theorem loads_previous_iff (hp : nav.page = some p) (hc : p.Consistent) :
    Loads nav .previous page size ↔ 0 < p.number.toNat ∧
      page.toNat = p.number.toNat - 1 ∧ size = nav.currentSize := by
  rw [loads_iff_target rfl, target_previous hp]
  split
  · rename_i hfirst
    rw [hc.first_iff] at hfirst
    exact iff_of_false nofun fun h => h.1.ne' hfirst
  · rename_i hfirst
    rw [hc.first_iff] at hfirst
    rw [some_target_iff, toNat_sub_min_one, and_iff_right (Nat.pos_of_ne_zero hfirst)]

theorem idle_next (hp : nav.page = some p) (hc : p.Consistent)
    (h : ¬ p.number.toNat + 1 < p.totalPages.toNat) : Idle nav .next := by
  have hlast : p.last = true := hc.last_iff.mpr (Nat.not_lt.mp h)
  exact idle_of_target rfl (by rw [target_next hp, if_pos hlast])

theorem idle_previous (hp : nav.page = some p) (hc : p.Consistent) (h : ¬ 0 < p.number.toNat) :
    Idle nav .previous := by
  have hfirst : p.first = true := hc.first_iff.mpr (Nat.eq_zero_of_not_pos h)
  exact idle_of_target rfl (by rw [target_previous hp, if_pos hfirst])

theorem loads_last_iff (hp : nav.page = some p) :
    Loads nav .last page size ↔
      page.toNat = max p.totalPages.toNat 1 - 1 ∧ size = nav.currentSize := by
  have hlast : p.totalPages.toNat - 1 = max p.totalPages.toNat 1 - 1 := by omega
  rw [loads_iff_target rfl, Navigator.target?, hp, Option.map_some, some_target_iff,
    toNat_sub_min_one, hlast]

theorem loads_first_iff :
    Loads nav .first page size ↔ page.toNat = 0 ∧ size = nav.currentSize := by
  rw [loads_iff_target rfl]
  exact some_target_iff

theorem loads_goTo_iff {link : UInt32} (h : 0 < link.toNat) :
    Loads nav (.goTo link) page size ↔ page.toNat = link.toNat - 1 ∧ size = nav.currentSize := by
  rw [loads_iff_target rfl, target_goTo h, some_target_iff, toNat_sub_one h]

theorem Loads.in_range (h : Loads nav action page size) (hp : nav.page = some p)
    (hc : p.Consistent) (hoffered : Offered nav action) :
    page.toNat < max p.totalPages.toNat 1 ∧ size = nav.currentSize := by
  have hnumber := hc.number_lt
  cases action with
  | next =>
    obtain ⟨hlt, hpage, hsize⟩ := (loads_next_iff hp hc).mp h
    exact ⟨by omega, hsize⟩
  | previous =>
    obtain ⟨hpos, hpage, hsize⟩ := (loads_previous_iff hp hc).mp h
    exact ⟨by omega, hsize⟩
  | last =>
    obtain ⟨hpage, hsize⟩ := (loads_last_iff hp).mp h
    exact ⟨by omega, hsize⟩
  | first =>
    obtain ⟨hpage, hsize⟩ := loads_first_iff.mp h
    exact ⟨by omega, hsize⟩
  | goTo link =>
    obtain ⟨hpos, hle⟩ := window_range hp hoffered
    obtain ⟨hpage, hsize⟩ := (loads_goTo_iff hpos).mp h
    exact ⟨by omega, hsize⟩
  | setQuery | load | submit | retry => cases hoffered

/-- From a page that agrees with itself every move leads to a page that is there, in the size of the
page shown, or of the last load if the page does not tell its size. There is a next page exactly if
the last one is not reached, and its number is no larger than a word; there is a page before unless
the first one is shown. What makes no load leaves everything as it is, so that a load under way can
still be shown. -/
theorem moves_stay_in_range (nav : Navigator) :
    (∀ p, nav.page = some p → p.isConsistent = true →
      let size := if 0 < p.size then p.size else nav.requestedSize
      (if p.number.toNat + 1 < p.totalPages.toNat then
        Loads nav .next (p.number + 1) size ∧ (p.number + 1).toNat = p.number.toNat + 1
      else
        Idle nav .next) ∧
      (if 0 < p.number.toNat then
        Loads nav .previous (p.number - 1) size ∧ (p.number - 1).toNat = p.number.toNat - 1
      else
        Idle nav .previous) ∧
      Loads nav .last (max p.totalPages 1 - 1) size ∧
      Loads nav .first 0 size ∧
      (∀ link ∈ nav.window, 0 < link.toNat ∧ Loads nav (.goTo link) (link - 1) size) ∧
      (∀ action page used, Offered nav action → Loads nav action page used →
        page.toNat < max p.totalPages.toNat 1 ∧ used = size)) ∧
    (∀ action fetch, (∀ query, action ≠ .setQuery query) → (stepWith fetch nav action).2 = [] →
      Idle nav action ∧
        ∀ ticket, (stepWith fetch nav action).1.accepts ticket = nav.accepts ticket) ∧
    (nav.page = none → Idle nav .last ∧ Idle nav .previous ∧ Idle nav .next) ∧
    Idle nav (.goTo 0) := by
  refine ⟨fun p hp hconsistent => ?_, fun action fetch hquery hasked => ?_, fun hp => ?_,
    idle_of_target rfl rfl⟩
  · have hc := ResultPage.isConsistent_iff.mp hconsistent
    have htotal : p.totalPages.toNat ≤ maxWord32 := Nat.le_of_lt_succ p.totalPages.toNat_lt
    rw [← currentSize_shown hp]
    intro size
    refine ⟨?_, ?_, ?_, loads_first_iff.mpr ⟨rfl, rfl⟩, fun link hlink => ?_,
      fun action page used hoffered h => h.in_range hp hc hoffered⟩
    · split
      · rename_i hlt
        have hnext : (p.number + 1).toNat = p.number.toNat + 1 := toNat_add_one (by omega)
        exact ⟨(loads_next_iff hp hc).mpr ⟨hlt, hnext, rfl⟩, hnext⟩
      · exact idle_next hp hc (by assumption)
    · split
      · rename_i hpos
        have hprevious := toNat_sub_one hpos
        exact ⟨(loads_previous_iff hp hc).mpr ⟨hpos, hprevious, rfl⟩, hprevious⟩
      · exact idle_previous hp hc (by assumption)
    · have hpos : 0 < (max p.totalPages 1).toNat := by
        rw [UInt32.toNat_max]
        exact lt_max_of_lt_right Nat.one_pos
      rw [loads_last_iff hp, toNat_sub_one hpos, UInt32.toNat_max, UInt32.toNat_one]
      exact ⟨rfl, rfl⟩
    · have hpos := (window_range hp hlink).1
      exact ⟨hpos, (loads_goTo_iff hpos).mpr ⟨toNat_sub_one hpos, rfl⟩⟩
  · have hidle := idle_of_nothing_asked hquery hasked
    exact ⟨hidle, fun ticket => by rw [hidle.noted]⟩
  · have htarget : ∀ action ∈ [Action.last, .previous, .next], nav.target? action = none := by
      simp [Navigator.target?, hp]
    exact ⟨idle_of_target rfl (htarget _ (by simp)), idle_of_target rfl (htarget _ (by simp)),
      idle_of_target rfl (htarget _ (by simp))⟩

/-- The last page but one of as many as a word can count. It is empty and does not tell its size. -/
def lastButOne : ResultPage Node := ⟨[], 4294967293, 0, 0, 4294967295, 0, false, false⟩

/-- From there moves lead on and back in the size of the load under way. Its ticket is accepted also
after a move to a page that does not exist. -/
theorem moves_stay_in_range_lastButOne :
    let nav : Navigator := { page := some lastButOne, requestedSize := 7, generation := 3 }
    let fetch : Ticket → PageOutcome := fun _ => .error (.remoteFetch "down")
    lastButOne.isConsistent = true ∧
    Loads nav .next 4294967294 7 ∧ Loads nav .previous 4294967292 7 ∧
    4294967290 ∈ nav.window ∧ Loads nav (.goTo 4294967290) 4294967289 7 ∧
    (4294967289 : UInt32).toNat < max lastButOne.totalPages.toNat 1 ∧
    (stepWith fetch nav (.goTo 0)).2 = [] ∧
    (stepWith fetch nav (.goTo 0)).1.accepts ⟨3, "", 0, 7⟩ = true ∧ Idle .new .next := by
  intro nav fetch
  have hconsistent : lastButOne.isConsistent = true := by decide
  have hlink : 4294967290 ∈ nav.window := by decide
  have hasked : (stepWith fetch nav (.goTo 0)).2 = [] := rfl
  obtain ⟨hmoves, hidle, -, -⟩ := moves_stay_in_range nav
  obtain ⟨hnext, hprevious, -, -, hgoTo, hrange⟩ := hmoves lastButOne rfl hconsistent
  rw [if_pos (by decide)] at hnext hprevious
  have hloads := (hgoTo _ hlink).2
  have haccepts := (hidle (.goTo 0) fetch (fun _ => Action.noConfusion) hasked).2 ⟨3, "", 0, 7⟩
  have hnew := (moves_stay_in_range .new).2.2.1 rfl
  exact ⟨hconsistent, hnext.1, hprevious.1, hlink, hloads, (hrange (.goTo _) _ _ hlink hloads).1,
    hasked, haccepts.trans (by decide), hnew.2.2⟩

end GraphBrowser.Listing
