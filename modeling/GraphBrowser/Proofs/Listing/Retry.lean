import GraphBrowser.Proofs.Listing.Step

namespace GraphBrowser.Listing

/-- What comes of several actions, each with the outcome that its load has: the listing after the last
one, and the tickets of all loads. -/
def runAnswered (nav : Navigator) : List (Action × PageOutcome) → Navigator × List Ticket
  | [] => (nav, [])
  | (action, o) :: rest =>
    let made := stepWith (fun _ => o) nav action
    let later := runAnswered made.1 rest
    (later.1, made.2 ++ later.2)

/-- An action whose load fails with one error after the other, is retried each time, and has the given
outcome in the end. -/
def tries (action : Action) : List Error → PageOutcome → List (Action × PageOutcome)
  | [], o => [(action, o)]
  | e :: errors, o => (action, .error e) :: tries .retry errors o

def asks (ticket : Ticket) : String × UInt32 × UInt32 := (ticket.query, ticket.page, ticket.size)

variable {nav : Navigator} {action : Action} {page size : UInt32}

def ended (nav : Navigator) (page size : UInt32) (o : PageOutcome) : Navigator :=
  (nav.begin page size).1.finish (nav.begin page size).2 o

theorem stepWith_ended (h : (nav.prepared action).target? action = some (page, size))
    (o : PageOutcome) : stepWith (fun _ => o) nav action =
      (ended (nav.prepared action) page size o, [((nav.prepared action).begin page size).2]) :=
  stepWith_load h

theorem ended_error (nav : Navigator) (page size : UInt32) (e : Error) :
    ended nav page size (.error e) =
      { (nav.begin page size).1 with page := none, errorMessage := some e.message } :=
  finish_begin_error nav page size e

theorem target_retry_ended (nav : Navigator) (page size : UInt32) (e : Error) :
    (ended nav page size (.error e)).target? .retry = some (page, size) := by
  rw [ended_error]
  rfl

/-- A failure before it leaves no trace in a load, but for being counted. -/
theorem ended_ended (nav : Navigator) (page size : UInt32) (e : Error) (o : PageOutcome) :
    ended (ended nav page size (.error e)) page size o =
      { ended nav page size o with generation := (ended nav page size o).generation + 1 } := by
  rw [ended_error]
  cases o with
  | ok p =>
    rw [ended, ended, finish_begin, finish_begin]
    rfl
  | error e' =>
    rw [ended_error, ended_error]
    rfl

theorem query_ended (nav : Navigator) (page size : UInt32) (o : PageOutcome) :
    (ended nav page size o).query = nav.query := by
  obtain ⟨_, _, h⟩ := (nav.begin page size).1.finish_keeps (nav.begin page size).2 o
  rw [ended, h]
  rfl

theorem runAnswered_tries (h : (nav.prepared action).target? action = some (page, size))
    (errors : List Error) (o : PageOutcome) :
    let last := ended (nav.prepared action) page size o
    let tried := runAnswered nav (tries action errors o)
    tried.1 = { last with generation := last.generation + .ofNat errors.length } ∧
      tried.2.map asks =
        List.replicate (errors.length + 1) ((nav.prepared action).query, page, size) := by
  -- Each try leaves a listing from which a retry asks for the same page of the same query.
  induction errors generalizing nav action with
  | nil =>
    simp only [tries, runAnswered, stepWith_ended h]
    exact ⟨by simp, rfl⟩
  | cons e errors ih =>
    let failed := ended (nav.prepared action) page size (.error e)
    obtain ⟨hlast, hasked⟩ :=
      @ih failed .retry (target_retry_ended (nav.prepared action) page size e)
    have hcount : ∀ g : UInt64, g + 1 + .ofNat errors.length = g + .ofNat (errors.length + 1) := by
      intro g
      rw [UInt64.ofNat_add, UInt64.add_assoc, UInt64.add_comm 1]
      rfl
    have hprepared : failed.prepared .retry = failed := rfl
    rw [hprepared, ended_ended, hcount] at hlast
    rw [hprepared, query_ended] at hasked
    simp only [tries, runAnswered, stepWith_ended h]
    exact ⟨hlast, congrArg (_ :: ·) hasked⟩

/-- Trying again and again makes the same request again and again, and in the end shows what a single
try would have shown. Only the number of loads tells the difference. -/
theorem retries_leave_no_trace (nav : Navigator) (action : Action) (errors : List Error)
    (o : PageOutcome) (h : (stepWith (fun _ => o) nav action).2 ≠ []) :
    let once := stepWith (fun _ => o) nav action
    let tried := runAnswered nav (tries action errors o)
    (∃ ticket, once.2 = [ticket] ∧
      tried.2.map asks = List.replicate (errors.length + 1) (asks ticket)) ∧
    tried.1 = { once.1 with generation := once.1.generation + .ofNat errors.length } := by
  cases ht : (nav.prepared action).target? action with
  | none => exact absurd (congrArg Prod.snd (stepWith_idle ht)) h
  | some target =>
    obtain ⟨page, size⟩ := target
    obtain ⟨hlast, hasked⟩ := runAnswered_tries ht errors o
    rw [stepWith_ended ht]
    exact ⟨⟨_, rfl, hasked⟩, hlast⟩

def firstOfThree : ResultPage Node := ⟨[{ name := "a" }], 0, 1, 3, 3, 1, true, false⟩

theorem retries_leave_no_trace_firstOfThree :
    let nav : Navigator := { Navigator.new with page := some firstOfThree }
    let second : ResultPage Node := ⟨[{ name := "b" }], 1, 1, 3, 3, 1, false, false⟩
    (stepWith (fun _ => .ok second) nav .next).2 ≠ [] ∧
    (runAnswered nav (tries .next [.remoteFetch "down", .serialization "odd"] (.ok second))).1 =
      { nav with page := some second, requestedPage := 1, requestedSize := 1, generation := 3 } := by
  intro nav second
  have hload : (stepWith (fun _ => .ok second) nav .next).2 ≠ [] := List.cons_ne_nil _ _
  obtain ⟨-, hlast⟩ :=
    retries_leave_no_trace nav .next [.remoteFetch "down", .serialization "odd"] (.ok second) hload
  exact ⟨hload, hlast⟩

end GraphBrowser.Listing
