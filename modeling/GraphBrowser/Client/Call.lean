import GraphBrowser.Graph.Basic
import GraphBrowser.Page.Basic
import GraphBrowser.Url.Encoding

namespace GraphBrowser

/-- One question to the service: for its description, for a node by name, for a page of the nodes
that match a query, or for the dependency between two nodes. -/
inductive Call : Type → Type where
  | info : Call String
  | node (name : String) : Call Node
  | nodes (query : String) (page size : UInt32) : Call (ResultPage Node)
  | edge (source target : String) : Call Dependency

namespace Call

def emptyArgument (what : String) : Error := .invalidArgument (what ++ " must not be empty")

def refusal? : Call α → Option Error
  | info => none
  | node name => if name.isEmpty then some (emptyArgument "node name") else none
  | nodes _ _ size => if size = 0 then some ResultPage.zeroSize else none
  | edge source target =>
    if source.isEmpty then some (emptyArgument "edge source")
    else if target.isEmpty then some (emptyArgument "edge target")
    else none

def endpoint : Call α → String
  | info => "info"
  | node _ => "node"
  | nodes _ _ _ => "nodes"
  | edge _ _ => "edge"

/-- The parameters of a call. An empty query is left out. -/
def parameters : Call α → Url.Form.Parameters
  | info => []
  | node name => [("name", name)]
  | nodes query page size =>
    (if query.isEmpty then [] else [("q", query)]) ++
      [("page", toString page.toNat), ("size", toString size.toNat)]
  | edge source target => [("from", source), ("to", target)]

end Call

end GraphBrowser
