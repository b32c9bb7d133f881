import GraphBrowser.Proofs.Listing.Step

namespace GraphBrowser

def Action.size? : Action → Option UInt32
  | .load _ size => some size
  | .setQuery _ | .submit _ | .retry | .first | .last | .previous | .next | .goTo _ => none

namespace Listing

/-- What answers loads. Its state may remember what has been asked before, so that the same question
can have different answers. -/
abbrev Source (σ : Type) := Ticket → StateM σ PageOutcome

/-- A source that fails or answers with a page of the size asked for, or one that does not tell its
size. -/
def KeepsSize (source : Source σ) : Prop :=
  ∀ ticket s p, (source ticket s).1 = .ok p → p.size = ticket.size ∨ p.size = 0

def askFrom (source : Source σ) (nav : Navigator) (s : σ) (action : Action) :
    (Navigator × List Ticket) × σ :=
  let noted (ticket : Ticket) : StateT (List Ticket) (StateM σ) PageOutcome := do
    modify (· ++ [ticket])
    source ticket
  ((nav.perform noted action).run []).run s

def askedFrom (source : Source σ) (nav : Navigator) (s : σ) : List Action → List (List Ticket)
  | [] => []
  | a :: as =>
    let made := askFrom source nav s a
    made.1.2 :: askedFrom source made.1.1 made.2 as

def namedSize (size : UInt32) (actions : List Action) : UInt32 :=
  (actions.filterMap Action.size?).getLast?.getD size

/-- The next load is for pages of the given size: it was asked for last, and the page shown does not
tell another one. -/
structure Sized (size : UInt32) (nav : Navigator) : Prop where
  requested : nav.requestedSize = size
  shown : ∀ p, nav.page = some p → p.size = size ∨ p.size = 0

variable {source : Source σ} {nav : Navigator} {s : σ} {action : Action} {page size : UInt32}

theorem askFrom_idle (h : (nav.prepared action).target? action = none) :
    askFrom source nav s action = ((nav.prepared action, []), s) := by
  simp only [askFrom, Navigator.perform_idle (Navigator.start_of_no_target h)]
  rfl

theorem askFrom_load (h : (nav.prepared action).target? action = some (page, size)) :
    let (begun, ticket) := (nav.prepared action).begin page size
    askFrom source nav s action =
      ((begun.finish ticket (source ticket s).1, [ticket]), (source ticket s).2) := by
  simp only [askFrom, Navigator.perform_load (Navigator.start_of_target h)]
  rfl

theorem namedSize_cons (size : UInt32) (action : Action) (actions : List Action) :
    namedSize size (action :: actions) = namedSize (action.size?.getD size) actions := by
  unfold namedSize
  cases h : action.size? with
  | none => rw [List.filterMap_cons_none h, Option.getD_none]
  | some named => simp [List.filterMap_cons_some h, List.getLast?_cons]

theorem length_askedFrom (nav : Navigator) (s : σ) (actions : List Action) :
    (askedFrom source nav s actions).length = actions.length := by
  induction actions generalizing nav s with
  | nil => rfl
  | cons action actions ih => exact congrArg (· + 1) (ih _ _)

namespace Sized

theorem currentSize_eq (h : Sized size nav) : nav.currentSize = size := by
  unfold Navigator.currentSize
  split
  · exact h.requested
  · rename_i p hp
    split
    · rename_i hpos
      exact (h.shown p hp).resolve_right (UInt32.ne_of_lt hpos).symm
    · exact h.requested

theorem prepared (h : Sized size nav) (action : Action) : Sized size (nav.prepared action) := by
  cases action <;> exact ⟨h.requested, h.shown⟩

theorem target (h : Sized size nav) {used : UInt32} (ht : nav.target? action = some (page, used)) :
    used = action.size?.getD size := by
  cases action with
  | load =>
    cases ht
    rfl
  | setQuery | submit | retry | first | last | previous | next | goTo =>
    rcases Navigator.target_size ht with hload | hused | hused
    · cases hload
    · exact hused.trans h.requested
    · exact hused.trans h.currentSize_eq

theorem finish_begin (nav : Navigator) (page size : UInt32) {o : PageOutcome}
    (ho : ∀ p, o = .ok p → p.size = size ∨ p.size = 0) :
    Sized size ((nav.begin page size).1.finish (nav.begin page size).2 o) := by
  cases o with
  | ok p =>
    rw [Listing.finish_begin]
    refine ⟨rfl, fun p' hp => ?_⟩
    cases hp
    exact ho p rfl
  | error e =>
    rw [finish_begin_error]
    exact ⟨rfl, nofun⟩

theorem step (hsource : KeepsSize source) (h : Sized size nav) (s : σ) (action : Action) :
    Sized (action.size?.getD size) (askFrom source nav s action).1.1 ∧
      ∀ ticket ∈ (askFrom source nav s action).1.2, ticket.size = action.size?.getD size := by
  have hprepared := h.prepared action
  cases ht : (nav.prepared action).target? action with
  | none =>
    have hnamed : action.size? = none := by
      cases action with
      | load => cases ht
      | setQuery | submit | retry | first | last | previous | next | goTo => rfl
    rw [askFrom_idle ht, hnamed]
    exact ⟨hprepared, nofun⟩
  | some target =>
    obtain ⟨page, used⟩ := target
    rw [askFrom_load ht, ← hprepared.target ht]
    exact ⟨finish_begin _ _ _ fun p => hsource _ s p, List.forall_mem_singleton.mpr rfl⟩

theorem run (hsource : KeepsSize source) (h : Sized size nav) (s : σ) (actions : List Action)
    {i : Nat} {tickets : List Ticket} (hi : (askedFrom source nav s actions)[i]? = some tickets) :
    ∀ ticket ∈ tickets, ticket.size = namedSize size (actions.take (i + 1)) := by
  -- The size that is kept changes with each action that names one.
  induction actions generalizing nav s size i with
  | nil => cases hi
  | cons action actions ih =>
    obtain ⟨hnext, htickets⟩ := h.step hsource s action
    rw [List.take_succ_cons, namedSize_cons]
    cases i with
    | zero =>
      cases hi
      exact htickets
    | succ i => exact ih hnext _ hi

end Sized

/-- Every load of a run is for pages of the size that the last load to name one has named, or of the
size at the start. Failures, retries, other filters and pages that do not tell their size make no
difference. -/
theorem size_is_kept (source : Source σ) (hsource : KeepsSize source) (s : σ) (start : Navigator)
    (hstart : start.page = none) (actions : List Action) :
    (askedFrom source start s actions).length = actions.length ∧
    ∀ i tickets, (askedFrom source start s actions)[i]? = some tickets →
      ∀ ticket ∈ tickets, ticket.size = namedSize start.requestedSize (actions.take (i + 1)) := by
  have hsized : Sized start.requestedSize start := ⟨rfl, by rw [hstart]; exact nofun⟩
  exact ⟨length_askedFrom start s actions, fun i tickets hi => hsized.run hsource s actions hi⟩

/-- A source that answers every third time with an empty page that does not tell its size, every
third time with one that does, and fails in between. -/
def moody : Source Nat := fun ticket count =>
  (match count % 3 with
    | 0 => .error (.remoteFetch "down")
    | 1 => .ok { ResultPage.empty 0 with totalPages := 5, last := false }
    | _ => .ok { ResultPage.empty ticket.size with totalPages := 5, last := false },
  count + 1)

theorem keepsSize_moody : KeepsSize moody := by
  intro ticket count p h
  simp only [moody] at h
  split at h
  · cases h
  · cases h
    exact .inr rfl
  · cases h
    exact .inl rfl

theorem size_is_kept_moody :
    let actions : List Action := [.load 2 7, .retry, .submit "b", .next]
    KeepsSize moody ∧ (Navigator.new.withPageSize 9).page = none ∧
    ∃ ticket, (askedFrom moody (Navigator.new.withPageSize 9) 0 actions)[3]? = some [ticket] ∧
      ticket.size = 7 := by
  intro actions
  obtain ⟨-, hsize⟩ :=
    size_is_kept moody keepsSize_moody 0 (Navigator.new.withPageSize 9) rfl actions
  refine ⟨keepsSize_moody, rfl, _, rfl, ?_⟩
  exact hsize 3 _ rfl _ (List.mem_singleton_self _)

end Listing

end GraphBrowser
