import GraphBrowser.Error

namespace GraphBrowser

def maxVisiblePages : UInt32 := 10

def maxWord32 : Nat := UInt32.size - 1

/-- How the program is built: so that it stops where a sum of words is too large for a word, or so
that the sum wraps. -/
inductive Build where
  | checked
  | wrapping
  deriving DecidableEq, Repr

/-- The sum of two words; `none` if the program stops there. -/
def Build.add? (b : Build) (m n : UInt32) : Option UInt32 :=
  match b with
  | .checked => if m.toNat + n.toNat < UInt32.size then some (m + n) else none
  | .wrapping => some (m + n)

namespace Window

/-- The pages offered, counted from 0, as the first one and the one after the last. All pages are
offered if they fit into `width`. Otherwise the window starts half a width before the current page,
and it is shifted back where it would run past the last page. Its end never exceeds the largest
32-bit number. -/
def bounds (total current width : Nat) : Nat × Nat :=
  if total ≤ width then
    (0, total)
  else
    let start := current - width / 2
    let stop := min (start + width) maxWord32
    if total < stop then (start - (stop - total), total) else (start, stop)

def pages (total current width : UInt32) : List UInt32 :=
  let (start, stop) := bounds total.toNat current.toNat width.toNat
  (List.range' (start + 1) (stop - start)).map UInt32.ofNat

end Window

/-- The content of a page with what the service says about its place in the listing. The number
counts from 0, and `size` is the size that was asked for. -/
structure ResultPage (α : Type) where
  content : List α
  number : UInt32
  size : UInt32
  totalElements : UInt64
  totalPages : UInt32
  numberOfElements : UInt32
  first : Bool
  last : Bool
  deriving DecidableEq, Repr

namespace ResultPage

def empty (size : UInt32) : ResultPage α where
  content := []
  number := 0
  size := size
  totalElements := 0
  totalPages := 0
  numberOfElements := 0
  first := true
  last := true

def pageCount (elements size : Nat) : Nat := (elements + size - 1) / size

def zeroSize : Error := .invalidArgument "page size must be greater than zero"

/-- Cut page `number` out of a complete listing. A page past the end is empty. -/
def ofList (all : List α) (number size : UInt32) : Except Error (ResultPage α) :=
  if size = 0 then
    .error zeroSize
  else
    let total := all.length
    let pages := pageCount total size.toNat
    if maxWord32 < pages then
      .error (.invalidArgument ("too many pages for " ++ toString total ++ " elements"))
    else
      let content := (all.drop (number.toNat * size.toNat)).take size.toNat
      .ok {
        content := content
        number := number
        size := size
        totalElements := .ofNat total
        totalPages := .ofNat pages
        numberOfElements := .ofNat content.length
        first := number = 0
        last := pages ≤ min (number.toNat + 1) maxWord32 }

def isEmpty (p : ResultPage α) : Bool := p.content.isEmpty

/-- Whether the numbers of a page agree with each other and with its content. -/
def isConsistent (p : ResultPage α) : Bool :=
  p.numberOfElements.toNat = p.content.length
    && p.numberOfElements ≤ p.size
    && p.number < max p.totalPages 1
    && p.first = (p.number = 0 : Bool)
    && p.last = (p.totalPages = 0 || p.number = p.totalPages - 1 : Bool)

def window (p : ResultPage α) : List UInt32 := Window.pages p.totalPages p.number maxVisiblePages

/-- Whether a page number, counted from 1, is that of this page. -/
def isActive (p : ResultPage α) (page : UInt32) : Bool := page = p.number + 1

def isActive? (b : Build) (p : ResultPage α) (page : UInt32) : Option Bool := do
  return page = (← b.add? p.number 1)

/-- Replace the elements one after the other by a function that may have effects, keeping all that
is said about the page. -/
def mapM [Monad m] (f : α → m β) (p : ResultPage α) : m (ResultPage β) := do
  let content ← p.content.mapM f
  return { p with content := content }

def map (f : α → β) (p : ResultPage α) : ResultPage β := Id.run (p.mapM fun a => pure (f a))

end ResultPage

end GraphBrowser
