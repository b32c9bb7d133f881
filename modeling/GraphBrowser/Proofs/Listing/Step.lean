import GraphBrowser.Proofs.Listing.Navigator
import GraphBrowser.Proofs.Page.Consistent
import GraphBrowser.Proofs.Page.Window

namespace GraphBrowser.Listing

/-- What comes of an action with loads answered by `fetch`: the listing after it, and the tickets of
the loads that it made. -/
def stepWith (fetch : Ticket → PageOutcome) (nav : Navigator) (action : Action) :
    Navigator × List Ticket :=
  let recorded (ticket : Ticket) : StateM (List Ticket) PageOutcome := do
    modify (· ++ [ticket])
    return fetch ticket
  (nav.perform recorded action).run []

def runWith (fetch : Ticket → PageOutcome) (nav : Navigator) :
    List Action → List (Navigator × List Ticket)
  | [] => []
  | a :: as => stepWith fetch nav a :: runWith fetch (stepWith fetch nav a).1 as

def endWith (fetch : Ticket → PageOutcome) (nav : Navigator) : List Action → Navigator
  | [] => nav
  | a :: as => endWith fetch (stepWith fetch nav a).1 as

variable {fetch : Ticket → PageOutcome} {nav : Navigator} {action : Action}

theorem stepWith_of_idle {nav' : Navigator} (h : nav.start action = (nav', none)) :
    stepWith fetch nav action = (nav', []) := by
  simp only [stepWith, Navigator.perform_idle h]
  rfl

theorem stepWith_of_load {nav' : Navigator} {ticket : Ticket}
    (h : nav.start action = (nav', some ticket)) :
    stepWith fetch nav action = (nav'.finish ticket (fetch ticket), [ticket]) := by
  simp only [stepWith, Navigator.perform_load h]
  rfl

theorem stepWith_idle (h : (nav.prepared action).target? action = none) :
    stepWith fetch nav action = (nav.prepared action, []) :=
  stepWith_of_idle (Navigator.start_of_no_target h)

theorem stepWith_load {page size : UInt32}
    (h : (nav.prepared action).target? action = some (page, size)) :
    stepWith fetch nav action =
      (((nav.prepared action).begin page size).1.finish ((nav.prepared action).begin page size).2
          (fetch ((nav.prepared action).begin page size).2),
        [((nav.prepared action).begin page size).2]) :=
  stepWith_of_load (Navigator.start_of_target h)

theorem finish_begin (nav : Navigator) (page size : UInt32) (p : ResultPage Node) :
    (nav.begin page size).1.finish (nav.begin page size).2 (.ok p) =
      { (nav.begin page size).1 with page := some p, errorMessage := none } :=
  if_pos (decide_eq_true rfl)

theorem finish_begin_error (nav : Navigator) (page size : UInt32) (e : Error) :
    (nav.begin page size).1.finish (nav.begin page size).2 (.error e) =
      { (nav.begin page size).1 with page := none, errorMessage := some e.message } :=
  if_pos (decide_eq_true rfl)

theorem target_next {p : ResultPage Node} (hp : nav.page = some p) :
    nav.target? .next = if p.last then none else some (p.number + 1, nav.currentSize) := by
  simp only [Navigator.target?, hp, bind, Option.bind]

theorem target_previous {p : ResultPage Node} (hp : nav.page = some p) :
    nav.target? .previous =
      if p.first then none else some (p.number - min p.number 1, nav.currentSize) := by
  simp only [Navigator.target?, hp, bind, Option.bind]

theorem target_goTo {link : UInt32} (h : 0 < link.toNat) :
    nav.target? (.goTo link) = some (link - 1, nav.currentSize) := by
  have hne : link ≠ 0 := by
    rintro rfl
    exact Nat.lt_irrefl 0 h
  rw [Navigator.target?, if_neg hne]

theorem window_range {p : ResultPage Node} (hp : nav.page = some p) {link : UInt32}
    (h : link ∈ nav.window) : 0 < link.toNat ∧ link.toNat ≤ p.totalPages.toNat := by
  simp only [Navigator.window, hp] at h
  exact Window.pages_range h

/-- The listing shows page `i` of the nodes found by a query. -/
structure At (query : String) (found : List Node) (size : UInt32) (i : Nat) (nav : Navigator) :
    Prop where
  query_eq : nav.query = query
  shown : ∃ p, nav.page = some p ∧ p.number.toNat = i ∧
    ResultPage.ofList found p.number size = .ok p

/-- After one load, which was for page `i`, that page is shown. -/
structure Shown (query : String) (found : List Node) (size : UInt32) (i : Nat)
    (s : Navigator × List Ticket) : Prop where
  position : At query found size i s.1
  load : ∃ ticket, s.2 = [ticket] ∧ ticket.query = query ∧ ticket.page.toNat = i

/-- Pages of one size that are all there are cut out of the nodes found by a query. -/
structure Served (fetch : Ticket → PageOutcome) (query : String) (found : List Node)
    (size : UInt32) : Prop where
  size_pos : 0 < size
  count_le : found.length ⌈/⌉ size.toNat ≤ maxWord32
  answer : ∀ ticket : Ticket, ticket.query = query → ticket.size = size →
    fetch ticket = ResultPage.ofList found ticket.page size

variable {query : String} {found : List Node} {size : UInt32} {i : Nat}

theorem At.cut (h : At query found size i nav) : ∃ p, nav.page = some p ∧ p.number.toNat = i ∧
    p.Cut found p.number size := by
  obtain ⟨p, hp, hi, hcut⟩ := h.shown
  exact ⟨p, hp, hi, ResultPage.cut_of_ofList hcut⟩

theorem currentSize_shown {p : ResultPage Node} (hp : nav.page = some p) :
    nav.currentSize = if 0 < p.size then p.size else nav.requestedSize := by
  simp only [Navigator.currentSize, hp]

theorem currentSize_cut {p : ResultPage Node} {number : UInt32} (hp : nav.page = some p)
    (hcut : p.Cut found number size) : nav.currentSize = size := by
  have hpos : 0 < p.size := by
    rw [hcut.size_eq, UInt32.lt_iff_toNat_lt]
    exact hcut.size_pos
  rw [currentSize_shown hp, if_pos hpos]
  exact hcut.size_eq

theorem shown_of_answer {number asked : UInt32} {p : ResultPage Node}
    (hquery : (nav.prepared action).query = query)
    (htarget : (nav.prepared action).target? action = some (number, asked))
    (hanswer : fetch ((nav.prepared action).begin number asked).2 = .ok p)
    (hcut : ResultPage.ofList found number size = .ok p) :
    Shown query found size number.toNat (stepWith fetch nav action) := by
  have hnumber := (ResultPage.cut_of_ofList hcut).number_eq
  rw [stepWith_load htarget, hanswer, finish_begin]
  exact ⟨⟨hquery, p, rfl, congrArg UInt32.toNat hnumber, by rw [hnumber]; exact hcut⟩,
    _, rfl, hquery, rfl⟩

theorem Served.shown (h : Served fetch query found size) (hat : At query found size i nav)
    (hprepared : nav.prepared action = nav) {number : UInt32}
    (htarget : nav.target? action = some (number, nav.currentSize)) :
    Shown query found size number.toNat (stepWith fetch nav action) := by
  obtain ⟨q, hq, -, hcut⟩ := hat.cut
  obtain ⟨p, hp⟩ := ResultPage.exists_ofList h.size_pos h.count_le number
  have hanswer : fetch (nav.begin number nav.currentSize).2 = .ok p :=
    (h.answer _ hat.query_eq (currentSize_cut hq hcut)).trans hp
  rw [← hprepared] at hanswer htarget
  exact shown_of_answer (by rw [hprepared]; exact hat.query_eq) htarget hanswer hp

end GraphBrowser.Listing
