import GraphBrowser.Graph.Basic
import GraphBrowser.Json.Record

namespace GraphBrowser

open Json

def Properties.value (p : Properties) : Value := .object p.entries

mutual

def Dependency.value : Dependency → Value
  | ⟨source, target, type, properties, bases⟩ =>
    .object [
      ("sourceName", .string source),
      ("targetName", .string target),
      ("typeName", .string type),
      ("properties", properties.value),
      ("baseDependencies", .array (Dependency.values bases))]

def Dependency.values : List Dependency → List Value
  | [] => []
  | d :: ds => d.value :: Dependency.values ds

end

theorem Dependency.values_eq_map (ds : List Dependency) :
    Dependency.values ds = ds.map Dependency.value := by
  induction ds with
  | nil => rfl
  | cons d ds ih => simp [Dependency.values, ih]

def Node.value (n : Node) : Value :=
  .object [
    ("name", .string n.name),
    ("properties", n.properties.value),
    ("parents", .array (n.parents.map Dependency.value)),
    ("incomingDeps", .array (n.incoming.map Dependency.value)),
    ("outgoingDeps", .array (n.outgoing.map Dependency.value)),
    ("containedDeps", .array (n.contained.map Dependency.value))]

def GraphInfo.value (g : GraphInfo) : Value := .object [("info", .string g.info)]

def Properties.reader (depth : Nat) : Reader Properties := fun cs =>
  let value := match depth with
    | 0 => none
    | depth + 1 => some (readValue depth)
  (mapReader value cs).map fun (members, rest) => (.ofList members, rest)

structure Dependency.Draft where
  source : Option String := none
  target : Option String := none
  type : Option String := none
  properties : Option Properties := none
  bases : Option (List Dependency) := none

def Dependency.Draft.finish (d : Draft) : Except DecodeError Dependency := do
  return {
    source := ← require "sourceName" d.source
    target := ← require "targetName" d.target
    type := ← require "typeName" d.type
    properties := d.properties.getD .empty
    bases := d.bases.getD [] }

def Dependency.shape (depth : Nat) (base : Option (Reader Dependency)) :
    Shape Dependency.Draft Dependency where
  name := "Dependency"
  start := {}
  fields := [
    .of "sourceName" true (·.source) (fun d x => { d with source := some x }) stringReader,
    .of "targetName" true (·.target) (fun d x => { d with target := some x }) stringReader,
    .of "typeName" true (·.type) (fun d x => { d with type := some x }) stringReader,
    .of "properties" false (·.properties) (fun d x => { d with properties := some x })
      (Properties.reader depth),
    .of "baseDependencies" false (·.bases) (fun d x => { d with bases := some x })
      (listReader base)]
  finish := Dependency.Draft.finish

/-- Read a dependency, opening at most the given number of levels. A base lies two levels below the
dependency that it belongs to. -/
def Dependency.reader : Nat → Reader Dependency
  | 0 => recordReader (σ := Draft) "Dependency" none
  | 1 => recordReader "Dependency" (some (Dependency.shape 0 none))
  | depth + 2 =>
    recordReader "Dependency" (some (Dependency.shape (depth + 1) (some (Dependency.reader depth))))

structure Node.Draft where
  name : Option String := none
  properties : Option Properties := none
  parents : Option (List Dependency) := none
  incoming : Option (List Dependency) := none
  outgoing : Option (List Dependency) := none
  contained : Option (List Dependency) := none

def Node.Draft.finish (d : Draft) : Except DecodeError Node := do
  return {
    name := ← require "name" d.name
    properties := d.properties.getD .empty
    parents := d.parents.getD []
    incoming := d.incoming.getD []
    outgoing := d.outgoing.getD []
    contained := d.contained.getD [] }

def Node.shape (depth : Nat) : Shape Node.Draft Node :=
  let dependencies := listReader <| match depth with
    | 0 => none
    | depth + 1 => some (Dependency.reader depth)
  { name := "Node"
    start := {}
    fields := [
      .of "name" true (·.name) (fun d x => { d with name := some x }) stringReader,
      .of "properties" false (·.properties) (fun d x => { d with properties := some x })
        (Properties.reader depth),
      .of "parents" false (·.parents) (fun d x => { d with parents := some x }) dependencies,
      .of "incomingDeps" false (·.incoming) (fun d x => { d with incoming := some x }) dependencies,
      .of "outgoingDeps" false (·.outgoing) (fun d x => { d with outgoing := some x }) dependencies,
      .of "containedDeps" false (·.contained) (fun d x => { d with contained := some x })
        dependencies]
    finish := Node.Draft.finish }

def Node.reader (depth : Nat) : Reader Node :=
  recordReader "Node" <| match depth with
    | 0 => none
    | depth + 1 => some (Node.shape depth)

structure GraphInfo.Draft where
  info : Option String := none

def GraphInfo.shape : Shape GraphInfo.Draft GraphInfo where
  name := "GraphInfo"
  start := {}
  fields := [.of "info" true (·.info) (fun _ x => ⟨some x⟩) stringReader]
  finish d := do return ⟨← require "info" d.info⟩

def GraphInfo.reader : Reader GraphInfo := recordReader "GraphInfo" (some GraphInfo.shape)

def Dependency.parse (s : String) : Except DecodeError Dependency :=
  readText (Dependency.reader maxDepth) s

def Node.parse (s : String) : Except DecodeError Node := readText (Node.reader maxDepth) s

def GraphInfo.parse (s : String) : Except DecodeError GraphInfo := readText GraphInfo.reader s

end GraphBrowser
