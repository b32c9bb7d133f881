import GraphBrowser.Graph.Wire
import GraphBrowser.Page.Basic

namespace GraphBrowser

open Json

namespace ResultPage

def value (item : α → Value) (p : ResultPage α) : Value :=
  .object [
    ("content", .array (p.content.map item)),
    ("number", .number (.int p.number.toNat)),
    ("size", .number (.int p.size.toNat)),
    ("totalElements", .number (.int p.totalElements.toNat)),
    ("totalPages", .number (.int p.totalPages.toNat)),
    ("numberOfElements", .number (.int p.numberOfElements.toNat)),
    ("first", .bool p.first),
    ("last", .bool p.last)]

structure Draft (α : Type) where
  content : Option (List α) := none
  number : Option UInt32 := none
  size : Option UInt32 := none
  totalElements : Option UInt64 := none
  totalPages : Option UInt32 := none
  numberOfElements : Option UInt32 := none
  first : Option Bool := none
  last : Option Bool := none

/-- A page may lack its content; it is empty then. -/
def Draft.finish (d : Draft α) : Except DecodeError (ResultPage α) := do
  return {
    content := d.content.getD []
    number := ← require "number" d.number
    size := ← require "size" d.size
    totalElements := ← require "totalElements" d.totalElements
    totalPages := ← require "totalPages" d.totalPages
    numberOfElements := ← require "numberOfElements" d.numberOfElements
    first := ← require "first" d.first
    last := ← require "last" d.last }

def shape (item : Option (Reader α)) : Shape (Draft α) (ResultPage α) where
  name := "ResultPage"
  start := {}
  fields := [
    .of "content" false (·.content) (fun d x => { d with content := some x }) (listReader item),
    .of "number" true (·.number) (fun d x => { d with number := some x }) word32Reader,
    .of "size" true (·.size) (fun d x => { d with size := some x }) word32Reader,
    .of "totalElements" true (·.totalElements) (fun d x => { d with totalElements := some x })
      word64Reader,
    .of "totalPages" true (·.totalPages) (fun d x => { d with totalPages := some x }) word32Reader,
    .of "numberOfElements" true (·.numberOfElements)
      (fun d x => { d with numberOfElements := some x }) word32Reader,
    .of "first" true (·.first) (fun d x => { d with first := some x }) boolReader,
    .of "last" true (·.last) (fun d x => { d with last := some x }) boolReader]
  finish := Draft.finish

def reader (item : Nat → Reader α) : Nat → Reader (ResultPage α)
  | 0 => recordReader (σ := Draft α) "ResultPage" none
  | 1 => recordReader "ResultPage" (some (shape none))
  | depth + 2 => recordReader "ResultPage" (some (shape (some (item depth))))

def parse (s : String) : Except DecodeError (ResultPage Node) :=
  readText (reader Node.reader maxDepth) s

end ResultPage

end GraphBrowser
