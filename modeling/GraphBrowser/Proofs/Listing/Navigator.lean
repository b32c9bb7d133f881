import GraphBrowser.Listing.Navigator

namespace GraphBrowser.Navigator

theorem finish_keeps (nav : Navigator) (ticket : Ticket) (o : PageOutcome) :
    ∃ page message,
      nav.finish ticket o = { nav with page := page, errorMessage := message } := by
  unfold finish
  split
  · cases o with
    | ok page => exact ⟨some page, none, rfl⟩
    | error e => exact ⟨none, some e.message, rfl⟩
  · exact ⟨nav.page, nav.errorMessage, rfl⟩

theorem generation_finish (nav : Navigator) (ticket : Ticket) (o : PageOutcome) :
    (nav.finish ticket o).generation = nav.generation := by
  obtain ⟨_, _, h⟩ := nav.finish_keeps ticket o
  rw [h]

theorem requestedSize_finish (nav : Navigator) (ticket : Ticket) (o : PageOutcome) :
    (nav.finish ticket o).requestedSize = nav.requestedSize := by
  obtain ⟨_, _, h⟩ := nav.finish_keeps ticket o
  rw [h]

theorem requestedSize_prepared (nav : Navigator) (action : Action) :
    (nav.prepared action).requestedSize = nav.requestedSize := by
  cases action <;> rfl

theorem start_of_no_target {nav : Navigator} {action : Action}
    (h : (nav.prepared action).target? action = none) :
    nav.start action = (nav.prepared action, none) := by
  simp only [start, h]

theorem start_of_target {nav : Navigator} {action : Action} {page size : UInt32}
    (h : (nav.prepared action).target? action = some (page, size)) :
    nav.start action = (((nav.prepared action).begin page size).1,
      some ((nav.prepared action).begin page size).2) := by
  simp only [start, h]

theorem start_cases (nav : Navigator) (action : Action) :
    ((nav.prepared action).target? action = none ∧
        nav.start action = (nav.prepared action, none)) ∨
      ∃ page size, (nav.prepared action).target? action = some (page, size) ∧
        nav.start action = (((nav.prepared action).begin page size).1,
          some ((nav.prepared action).begin page size).2) := by
  cases ht : (nav.prepared action).target? action with
  | none => exact .inl ⟨rfl, start_of_no_target ht⟩
  | some target =>
    obtain ⟨page, size⟩ := target
    exact .inr ⟨page, size, rfl, start_of_target ht⟩

theorem start_idle {nav nav' : Navigator} {action : Action}
    (h : nav.start action = (nav', none)) : nav'.requestedSize = nav.requestedSize := by
  obtain ⟨_, hs⟩ | ⟨page, size, _, hs⟩ := nav.start_cases action
  · rw [hs] at h
    cases h
    exact nav.requestedSize_prepared action
  · rw [hs] at h
    cases h

theorem start_load {nav nav' : Navigator} {action : Action} {ticket : Ticket}
    (h : nav.start action = (nav', some ticket)) : nav'.accepts ticket = true ∧
      (nav.prepared action).target? action = some (ticket.page, ticket.size) ∧
      nav'.requestedSize = ticket.size := by
  obtain ⟨_, hs⟩ | ⟨page, size, ht, hs⟩ := nav.start_cases action
  · rw [hs] at h
    cases h
  · rw [hs] at h
    cases h
    exact ⟨decide_eq_true rfl, ht, rfl⟩

section Answered

variable {m : Type → Type} [Monad m] {fetch : Ticket → m PageOutcome} {nav nav' : Navigator}
  {action : Action} {ticket : Ticket}

theorem perform_idle (h : nav.start action = (nav', none)) :
    nav.perform fetch action = pure nav' := by
  simp only [perform, h]

theorem perform_load (h : nav.start action = (nav', some ticket)) :
    nav.perform fetch action = do return nav'.finish ticket (← fetch ticket) := by
  simp only [perform, h]

end Answered

theorem currentSize_ne_zero {nav : Navigator} (h : nav.requestedSize ≠ 0) : nav.currentSize ≠ 0 := by
  unfold currentSize
  split
  · exact h
  · split
    · rename_i hpos
      exact (UInt32.ne_of_lt hpos).symm
    · exact h

theorem target_size {nav : Navigator} {action : Action} {page size : UInt32}
    (h : nav.target? action = some (page, size)) :
    action = .load page size ∨ size = nav.requestedSize ∨ size = nav.currentSize := by
  cases action with
  | setQuery query => cases h
  | load p s =>
    cases h
    exact .inl rfl
  | retry =>
    cases h
    exact .inr (.inl rfl)
  | submit query | first =>
    cases h
    exact .inr (.inr rfl)
  | last =>
    obtain ⟨p, _, hp⟩ := Option.map_eq_some_iff.mp h
    cases hp
    exact .inr (.inr rfl)
  | previous | next =>
    obtain ⟨p, _, hp⟩ := Option.bind_eq_some_iff.mp h
    split at hp
    · cases hp
    · cases hp
      exact .inr (.inr rfl)
  | goTo p =>
    simp only [target?] at h
    split at h
    · cases h
    · cases h
      exact .inr (.inr rfl)

theorem size_ne_zero {nav : Navigator} (hnav : nav.requestedSize ≠ 0) {action : Action}
    (hload : ∀ page size, action = .load page size → size ≠ 0) {page size : UInt32}
    (h : nav.target? action = some (page, size)) : size ≠ 0 := by
  rcases target_size h with hl | rfl | rfl
  · exact hload page size hl
  · exact hnav
  · exact currentSize_ne_zero hnav

end GraphBrowser.Navigator
