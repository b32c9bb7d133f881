import GraphBrowser.Proofs.Listing.Navigator
import Mathlib.Algebra.Group.Nat.Defs

namespace GraphBrowser

namespace Listing

/-- What happens to a navigator while loads are under way. A ticket is named by its place in the
order in which tickets are handed out. -/
inductive Move where
  | setQuery (query : String)
  | begin (page size : UInt32)
  | finish (ticket : Nat) (outcome : PageOutcome)

structure Session where
  nav : Navigator := .new
  issued : List Ticket := []

namespace Session

/-- A ticket that has not been handed out cannot be finished; nothing happens then. -/
def step (s : Session) : Move → Session
  | .setQuery query => { s with nav := s.nav.setQuery query }
  | .begin page size =>
    { nav := (s.nav.begin page size).1, issued := s.issued ++ [(s.nav.begin page size).2] }
  | .finish i outcome =>
    match s.issued[i]? with
    | none => s
    | some ticket => { s with nav := s.nav.finish ticket outcome }

def run (s : Session) (moves : List Move) : Session := moves.foldl step s

end Session

def begun : List Move → Nat
  | [] => 0
  | .setQuery _ :: rest => begun rest
  | .begin _ _ :: rest => begun rest + 1
  | .finish _ _ :: rest => begun rest

/-- The outcomes of a run that are for the newest ticket when they come; `n` tickets have been
handed out before. -/
def accepted : Nat → List Move → List PageOutcome
  | _, [] => []
  | n, .setQuery _ :: rest => accepted n rest
  | n, .begin _ _ :: rest => accepted (n + 1) rest
  | n, .finish i outcome :: rest =>
    if i + 1 = n then outcome :: accepted n rest else accepted n rest

/-- A run without the outcomes that are superseded when they come. -/
def live : Nat → List Move → List Move
  | _, [] => []
  | n, .setQuery query :: rest => .setQuery query :: live n rest
  | n, .begin page size :: rest => .begin page size :: live (n + 1) rest
  | n, .finish i outcome :: rest =>
    if i + 1 < n then live n rest else .finish i outcome :: live n rest

def display : PageOutcome → Option (ResultPage Node) × Option String
  | .ok page => (some page, none)
  | .error e => (none, some e.message)

/-- What is shown after a list of accepted outcomes, given what was shown before. -/
def displayLast (before : Option (ResultPage Node) × Option String) (outcomes : List PageOutcome) :
    Option (ResultPage Node) × Option String :=
  (outcomes.getLast?.map display).getD before

theorem displayLast_cons (before : Option (ResultPage Node) × Option String) (o : PageOutcome)
    (os : List PageOutcome) : displayLast before (o :: os) = displayLast (display o) os := by
  simp only [displayLast, List.getLast?_cons]
  cases os.getLast? <;> rfl

theorem displayLast_ne (outcomes : List PageOutcome) :
    displayLast (none, none) outcomes = (none, none) ↔ outcomes = [] := by
  rw [← List.getLast?_eq_none_iff, displayLast]
  cases outcomes.getLast? with
  | none => simp
  | some o => cases o <;> simp [display]

theorem begun_append (xs ys : List Move) : begun (xs ++ ys) = begun xs + begun ys := by
  induction xs with
  | nil => simp [begun]
  | cons m xs ih => cases m <;> simp [begun, ih, Nat.add_right_comm]

theorem live_append (n : Nat) (xs ys : List Move) :
    live n (xs ++ ys) = live n xs ++ live (n + begun xs) ys := by
  induction xs generalizing n with
  | nil => rfl
  | cons m xs ih =>
    cases m with
    | setQuery query => simp [live, begun, ih]
    | «begin» page size => simp [live, begun, ih, Nat.add_assoc, Nat.add_comm 1]
    | finish i outcome => by_cases h : i + 1 < n <;> simp [live, begun, ih, h]

theorem begun_live (n : Nat) (moves : List Move) : begun (live n moves) = begun moves := by
  induction moves generalizing n with
  | nil => rfl
  | cons m moves ih =>
    cases m with
    | setQuery query => simp [live, begun, ih]
    | «begin» page size => simp [live, begun, ih]
    | finish i outcome => by_cases h : i + 1 < n <;> simp [live, begun, ih, h]

theorem live_superseded (xs ys : List Move) (i : Nat) (outcome : PageOutcome)
    (h : i + 1 < begun xs) : live 0 (xs ++ .finish i outcome :: ys) = live 0 (xs ++ ys) := by
  simp [live_append, live, h]

namespace Session

def view (s : Session) : Option (ResultPage Node) × Option String :=
  (s.nav.page, s.nav.errorMessage)

/-- After `n` tickets, they are numbered from 1 in their order, and the navigator is at the last
number. -/
structure Ordered (n : Nat) (s : Session) : Prop where
  length : s.issued.length = n
  newest : s.nav.generation.toNat = n
  numbered : ∀ i ticket, s.issued[i]? = some ticket → ticket.generation.toNat = i + 1

theorem step_finish {s : Session} {i : Nat} {ticket : Ticket} (ht : s.issued[i]? = some ticket)
    (outcome : PageOutcome) :
    s.step (.finish i outcome) = { s with nav := s.nav.finish ticket outcome } := by
  simp only [step, ht]

theorem step_unissued {s : Session} {i : Nat} (ht : s.issued[i]? = none) (outcome : PageOutcome) :
    s.step (.finish i outcome) = s := by
  simp only [step, ht]

theorem ordered_new : Ordered 0 {} := by
  refine ⟨rfl, rfl, ?_⟩
  intro i ticket h
  simp at h

/-- The tickets that are accepted are those numbered last. -/
theorem Ordered.accepts_iff {n : Nat} {s : Session} (hs : Ordered n s) {i : Nat} {ticket : Ticket}
    (ht : s.issued[i]? = some ticket) : s.nav.accepts ticket = true ↔ i + 1 = n := by
  rw [Navigator.accepts, decide_eq_true_iff, ← UInt64.toNat_inj, hs.numbered i ticket ht, hs.newest]

theorem Ordered.setQuery {n : Nat} {s : Session} (hs : Ordered n s) (query : String) :
    Ordered n (s.step (.setQuery query)) := ⟨hs.length, hs.newest, hs.numbered⟩

theorem Ordered.begin {n : Nat} {s : Session} (hs : Ordered n s) (hn : n + 1 < 2 ^ 64)
    (page size : UInt32) : Ordered (n + 1) (s.step (.begin page size)) := by
  have hg : (s.nav.generation + 1).toNat = n + 1 := by
    rw [UInt64.toNat_add, hs.newest]
    exact Nat.mod_eq_of_lt hn
  refine ⟨by simp [step, hs.length], hg, ?_⟩
  intro i ticket ht
  rcases Nat.lt_trichotomy i n with hi | hi | hi
  · rw [step, List.getElem?_append_left (by rw [hs.length]; exact hi)] at ht
    exact hs.numbered i ticket ht
  · subst hi
    rw [step, List.getElem?_append_right (Nat.le_of_eq hs.length)] at ht
    simp only [hs.length, Nat.sub_self, List.getElem?_cons_zero, Option.some.injEq] at ht
    rw [← ht]
    exact hg
  · have hl : (s.issued ++ [(s.nav.begin page size).2]).length ≤ i := by
      simp only [List.length_append, hs.length, List.length_singleton]
      omega
    rw [step, List.getElem?_eq_none hl] at ht
    cases ht

theorem Ordered.finish {n : Nat} {s : Session} (hs : Ordered n s) (i : Nat)
    (outcome : PageOutcome) : Ordered n (s.step (.finish i outcome)) := by
  cases ht : s.issued[i]? with
  | none =>
    rw [step_unissued ht]
    exact hs
  | some ticket =>
    rw [step_finish ht]
    exact ⟨hs.length, (congrArg UInt64.toNat (Navigator.generation_finish _ _ _)).trans hs.newest, hs.numbered⟩

theorem Ordered.finish_ignored {n : Nat} {s : Session} (hs : Ordered n s) {i : Nat} {ticket : Ticket}
    (ht : s.issued[i]? = some ticket) (hi : i + 1 ≠ n) (outcome : PageOutcome) :
    s.nav.finish ticket outcome = s.nav := by
  have ha : ¬ s.nav.accepts ticket = true := fun h => hi ((hs.accepts_iff ht).mp h)
  unfold Navigator.finish
  rw [if_neg ha]

theorem Ordered.step_ignored {n : Nat} {s : Session} (hs : Ordered n s) {i : Nat} (hi : i + 1 ≠ n)
    (outcome : PageOutcome) : s.step (.finish i outcome) = s := by
  cases ht : s.issued[i]? with
  | none => exact step_unissued ht outcome
  | some ticket => rw [step_finish ht, hs.finish_ignored ht hi]

theorem Ordered.view_accepted {n : Nat} {s : Session} (hs : Ordered n s) {i : Nat}
    (hi : i + 1 = n) (outcome : PageOutcome) :
    (s.step (.finish i outcome)).view = display outcome := by
  have hl : i < s.issued.length := by rw [hs.length]; omega
  have ht : s.issued[i]? = some s.issued[i] := List.getElem?_eq_getElem hl
  have ha : s.nav.accepts s.issued[i] = true := (hs.accepts_iff ht).mpr hi
  rw [step_finish ht, view]
  unfold Navigator.finish
  rw [if_pos ha]
  cases outcome <;> rfl

theorem Ordered.run {n : Nat} {s : Session} (hs : Ordered n s) {moves : List Move}
    (hn : n + begun moves < 2 ^ 64) : Ordered (n + begun moves) (s.run moves) := by
  induction moves generalizing n s with
  | nil => exact hs
  | cons m moves ih =>
    cases m with
    | setQuery query => exact ih (hs.setQuery query) hn
    | «begin» page size =>
      simp only [begun] at hn ⊢
      have hr := ih (hs.begin (by omega) page size) (by omega)
      rwa [show n + 1 + begun moves = n + (begun moves + 1) by omega] at hr
    | finish i outcome => exact ih (hs.finish i outcome) hn

theorem Ordered.view_run {n : Nat} {s : Session} (hs : Ordered n s) {moves : List Move}
    (hn : n + begun moves < 2 ^ 64) :
    (s.run moves).view = displayLast s.view (accepted n moves) := by
  -- Only an accepted outcome changes the view, and it forgets the view before.
  induction moves generalizing n s with
  | nil => rfl
  | cons m moves ih =>
    cases m with
    | setQuery query => exact ih (hs.setQuery query) hn
    | «begin» page size =>
      simp only [begun] at hn
      exact ih (hs.begin (by omega) page size) (by omega)
    | finish i outcome =>
      have hr := ih (hs.finish i outcome) hn
      rw [accepted]
      split
      · rename_i hi
        rw [displayLast_cons, ← hs.view_accepted hi outcome]
        exact hr
      · rename_i hi
        rw [hs.step_ignored hi outcome] at hr
        rw [Session.run, List.foldl_cons, hs.step_ignored hi outcome]
        exact hr

theorem Ordered.run_live {n : Nat} {s : Session} (hs : Ordered n s) {moves : List Move}
    (hn : n + begun moves < 2 ^ 64) : s.run (live n moves) = s.run moves := by
  induction moves generalizing n s with
  | nil => rfl
  | cons m moves ih =>
    cases m with
    | setQuery query => exact ih (hs.setQuery query) hn
    | «begin» page size =>
      simp only [begun] at hn
      exact ih (hs.begin (by omega) page size) (by omega)
    | finish i outcome =>
      rw [live]
      split
      · have hi : i + 1 ≠ n := by omega
        rw [ih hs hn, Session.run, Session.run, List.foldl_cons, hs.step_ignored hi outcome]
      · exact ih (hs.finish i outcome) hn

end Session

/-- In every run the newest ticket alone is accepted, any other outcome leaves the navigator as it
is, and the last accepted outcome decides what is shown. Runs with the same live part end alike, so
superseded outcomes can be deleted or moved to where they are superseded as well. -/
theorem newest_ticket_decides (moves : List Move) (h : begun moves < 2 ^ 64) :
    let s := Session.run {} moves
    s.issued.length = begun moves ∧
    (∀ i ticket, s.issued[i]? = some ticket →
      (s.nav.accepts ticket = true ↔ i + 1 = begun moves) ∧
      (i + 1 ≠ begun moves → ∀ outcome, s.nav.finish ticket outcome = s.nav)) ∧
    (s.nav.page, s.nav.errorMessage) = displayLast (none, none) (accepted 0 moves) ∧
    ((s.nav.page, s.nav.errorMessage) = (none, none) ↔ accepted 0 moves = []) ∧
    Session.run {} (live 0 moves) = s ∧
    (∀ others, live 0 others = live 0 moves → Session.run {} others = s) ∧
    (∀ before between after i outcome, i + 1 < begun before →
      (moves = before ++ .finish i outcome :: (between ++ after) ∨
        moves = before ++ between ++ .finish i outcome :: after) →
      Session.run {} (before ++ between ++ .finish i outcome :: after) = s ∧
      Session.run {} (before ++ .finish i outcome :: (between ++ after)) = s ∧
      Session.run {} (before ++ between ++ after) = s) := by
  intro s
  have h0 : 0 + begun moves < 2 ^ 64 := by omega
  have hr : Session.Ordered (begun moves) s := by
    have hr := Session.ordered_new.run h0
    rwa [Nat.zero_add] at hr
  have hv : s.view = displayLast (none, none) (accepted 0 moves) := Session.ordered_new.view_run h0
  have hl : ∀ others, live 0 others = live 0 moves → Session.run {} others = s := by
    intro others ho
    have hb : begun others = begun moves := by
      rw [← begun_live 0 others, ho, begun_live]
    have ho' : Session.run {} (live 0 others) = Session.run {} others :=
      Session.ordered_new.run_live (by omega)
    rw [← ho', ho]
    exact Session.ordered_new.run_live h0
  refine ⟨hr.length, ?_, hv, ?_, Session.ordered_new.run_live h0, hl, ?_⟩
  · intro i ticket ht
    exact ⟨hr.accepts_iff ht, fun hi outcome => hr.finish_ignored ht hi outcome⟩
  · rw [← displayLast_ne, ← hv]
    rfl
  · intro before between after i outcome hi hm
    have hi' : i + 1 < begun (before ++ between) := by
      rw [begun_append]
      omega
    have hlate := live_superseded (before ++ between) after i outcome hi'
    have hearly := live_superseded before (between ++ after) i outcome hi
    rw [← List.append_assoc] at hearly
    have hmoves : live 0 (before ++ between ++ after) = live 0 moves := by
      rcases hm with rfl | rfl
      · exact hearly.symm
      · exact hlate.symm
    exact ⟨hl _ (hlate.trans hmoves), hl _ (hearly.trans hmoves), hl _ hmoves⟩

def lateSuccess : List Move :=
  [.begin 0 30, .begin 1 30, .finish 1 (.error (.remoteFetch "gone")), .finish 0 (.ok (.empty 30))]

theorem newest_ticket_decides_lateSuccess :
    begun lateSuccess < 2 ^ 64 ∧
    ((Session.run {} lateSuccess).nav.page, (Session.run {} lateSuccess).nav.errorMessage) =
      (none, some "gone") := by
  have h : begun lateSuccess < 2 ^ 64 := by decide
  exact ⟨h, (newest_ticket_decides lateSuccess h).2.2.1⟩

end Listing

end GraphBrowser
