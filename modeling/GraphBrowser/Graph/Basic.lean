import GraphBrowser.Graph.Properties
import GraphBrowser.Text.Basic

namespace GraphBrowser

open Json (Value)

/-- A directed, typed edge between two nodes, with the dependencies that it sums up. -/
structure Dependency where
  source : String
  target : String
  type : String
  properties : Properties := .empty
  bases : List Dependency := []
  deriving Repr, Inhabited

inductive Relation where
  | parent
  | incoming
  | outgoing
  | contained
  deriving DecidableEq, Repr

/-- A vertex with its dependencies. Parents are the containment edges that end at the node,
contained dependencies those that start at it. -/
structure Node where
  name : String
  properties : Properties := .empty
  parents : List Dependency := []
  incoming : List Dependency := []
  outgoing : List Dependency := []
  contained : List Dependency := []
  deriving Repr, Inhabited

structure GraphInfo where
  info : String
  deriving DecidableEq, Repr, Inhabited

namespace Dependency

def withProperty (d : Dependency) (key : String) (value : Value) : Dependency :=
  { d with properties := d.properties.insert key value }

def withBase (d base : Dependency) : Dependency := { d with bases := d.bases ++ [base] }

end Dependency

namespace Node

def withProperty (n : Node) (key : String) (value : Value) : Node :=
  { n with properties := n.properties.insert key value }

def withRelation (n : Node) (r : Relation) (d : Dependency) : Node :=
  match r with
  | .parent => { n with parents := n.parents ++ [d] }
  | .incoming => { n with incoming := n.incoming ++ [d] }
  | .outgoing => { n with outgoing := n.outgoing ++ [d] }
  | .contained => { n with contained := n.contained ++ [d] }

def related (n : Node) : Relation → List Dependency
  | .parent => n.parents
  | .incoming => n.incoming
  | .outgoing => n.outgoing
  | .contained => n.contained

end Node

/-- The end of a dependency that must be the node in whose list it stands. -/
def Relation.ownEnd (r : Relation) (d : Dependency) : String :=
  match r with
  | .parent | .incoming => d.target
  | .outgoing | .contained => d.source

def Relation.all : List Relation := [.parent, .incoming, .outgoing, .contained]

def Node.violations (n : Node) : List (Relation × Dependency) :=
  Relation.all.flatMap fun r =>
    ((n.related r).filter fun d => r.ownEnd d ≠ n.name).map fun d => (r, d)

/-- The part of a dotted name after its last dot; the whole name if it has none. -/
def shortName (name : String) : String :=
  String.ofList (Text.afterLast '.' name.toList)

/-- Levels below this one are never listed. -/
def maxBaseDepth : Nat := 8

namespace Dependency

def title (d : Dependency) : String := shortName d.source ++ " -> " ++ shortName d.target

def basesWithin (d : Dependency) (level : Nat) : (levels : Nat) → List (Nat × Dependency)
  | 0 => []
  | levels + 1 => d.bases.flatMap fun b => (level, b) :: b.basesWithin (level + 1) levels

/-- The bases down to the given depth, but never below `maxBaseDepth`. -/
def flatten (d : Dependency) (depth : Nat) : List (Nat × Dependency) :=
  d.basesWithin 1 (min depth maxBaseDepth)

end Dependency

end GraphBrowser
