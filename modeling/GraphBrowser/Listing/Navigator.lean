import GraphBrowser.Event
import GraphBrowser.Graph.Basic
import GraphBrowser.Page.Basic

namespace GraphBrowser

abbrev PageOutcome := Except Error (ResultPage Node)

structure Ticket where
  generation : UInt64
  query : String
  page : UInt32
  size : UInt32
  deriving DecidableEq, Repr

def defaultPageSize : UInt32 := 30

/-- The listing as it is shown: the filter, the page or the message in its place, and the page and
size that were asked for last. The generation counts the loads begun. -/
structure Navigator where
  query : String := ""
  page : Option (ResultPage Node) := none
  errorMessage : Option String := none
  requestedPage : UInt32 := 0
  requestedSize : UInt32 := defaultPageSize
  generation : UInt64 := 0
  deriving Repr, Inhabited

/-- What a user can ask of a listing. Page numbers for `goTo` count from 1, for `load` from 0. -/
inductive Action where
  | setQuery (query : String)
  | load (page size : UInt32)
  | submit (query : String)
  | retry
  | first
  | last
  | previous
  | next
  | goTo (page : UInt32)
  deriving DecidableEq, Repr

namespace Navigator

def new : Navigator := {}

def withPageSize (nav : Navigator) (size : UInt32) : Navigator := { nav with requestedSize := size }

def content (nav : Navigator) : List Node :=
  match nav.page with
  | none => []
  | some page => page.content

def window (nav : Navigator) : List UInt32 :=
  match nav.page with
  | none => []
  | some page => page.window

def isActive (nav : Navigator) (page : UInt32) : Bool :=
  match nav.page with
  | none => false
  | some p => p.isActive page

/-- The size of the page shown; without one, or if it is zero, the size asked for last. -/
def currentSize (nav : Navigator) : UInt32 :=
  match nav.page with
  | none => nav.requestedSize
  | some page => if 0 < page.size then page.size else nav.requestedSize

def setQuery (nav : Navigator) (query : String) : Navigator := { nav with query := query }

/-- Record a load as the newest one. Tickets handed out before are superseded. -/
def begin (nav : Navigator) (page size : UInt32) : Navigator × Ticket :=
  let generation := nav.generation + 1
  ({ nav with requestedPage := page, requestedSize := size, generation := generation },
    ⟨generation, nav.query, page, size⟩)

def accepts (nav : Navigator) (ticket : Ticket) : Bool := ticket.generation = nav.generation

/-- Show the outcome of a load, unless it is superseded. -/
def finish (nav : Navigator) (ticket : Ticket) (outcome : PageOutcome) : Navigator :=
  if nav.accepts ticket then
    match outcome with
    | .ok page => { nav with page := some page, errorMessage := none }
    | .error e => { nav with page := none, errorMessage := some e.message }
  else
    nav

def finishEvents (nav : Navigator) (ticket : Ticket) (outcome : PageOutcome) : List Event :=
  if nav.accepts ticket then
    match outcome with
    | .ok _ => []
    | .error _ => [.loadFailed]
  else
    [.supersededResponse]

/-- The state in which an action makes its load. -/
def prepared (nav : Navigator) : Action → Navigator
  | .setQuery query => nav.setQuery query
  | .submit query => nav.setQuery query
  | _ => nav

/-- The page and size that an action loads. There is nothing before the first page or after the last
one, and moving from page to page takes a page to move from. -/
def target? (nav : Navigator) : Action → Option (UInt32 × UInt32)
  | .setQuery _ => none
  | .load page size => some (page, size)
  | .submit _ => some (0, nav.currentSize)
  | .retry => some (nav.requestedPage, nav.requestedSize)
  | .first => some (0, nav.currentSize)
  | .last => nav.page.map fun p => (p.totalPages - min p.totalPages 1, nav.currentSize)
  | .previous => do
    let p ← nav.page
    if p.first then none else some (p.number - min p.number 1, nav.currentSize)
  | .next => do
    let p ← nav.page
    -- the sum wraps, but no page that is cut out of a listing and not the last has the largest number
    if p.last then none else some (p.number + 1, nav.currentSize)
  | .goTo page => if page = 0 then none else some (page - 1, nav.currentSize)

def startEvents (action : Action) : List Event :=
  if action = .goTo 0 then [.pageZero] else []

def start (nav : Navigator) (action : Action) : Navigator × Option Ticket :=
  let nav := nav.prepared action
  match nav.target? action with
  | none => (nav, none)
  | some (page, size) =>
    let (nav, ticket) := nav.begin page size
    (nav, some ticket)

def perform [Monad m] (fetch : Ticket → m PageOutcome) (nav : Navigator) (action : Action) :
    m Navigator := do
  match nav.start action with
  | (nav, none) => return nav
  | (nav, some ticket) => return nav.finish ticket (← fetch ticket)

end Navigator

def occursIn (part : List Char) : List Char → Bool
  | [] => part.isEmpty
  | c :: cs => part.isPrefixOf (c :: cs) || occursIn part cs

/-- The nodes whose name contains the query; the empty query matches all. -/
def nodesMatching (nodes : List Node) (query : String) : List Node :=
  nodes.filter fun n => occursIn query.toList n.name.toList

def fetchFrom (nodes : List Node) (ticket : Ticket) : PageOutcome :=
  ResultPage.ofList (nodesMatching nodes ticket.query) ticket.page ticket.size

end GraphBrowser
