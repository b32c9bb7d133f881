import GraphBrowser.Graph.Wire
import GraphBrowser.Proofs.Graph.Properties
import GraphBrowser.Proofs.Json.Fields

namespace GraphBrowser

open Json

namespace Properties

def writing (p : Properties) : Writing := .object (memberWritings p.entries)

theorem reads (p : Properties) (h : ExactMembers p.entries) (levels : Nat) :
    Reads levels (reader levels) p.writing p := by
  have hp : ofList p.entries = p := eq_of_entries (entries_ofList p.nodup)
  cases levels with
  | zero =>
    have hread := (reads_map_none (memberWritings p.entries) p.entries).mapped ofList
    rwa [hp] at hread
  | succ levels =>
    have hread := (reads_map (reads_members p.entries h levels)).mapped ofList
    rwa [hp] at hread

end Properties

namespace Dependency

def slotsWith (d : Dependency) (properties : Writing) (bases : List Writing) : List Slot := [
  ⟨"sourceName", False, .string d.source⟩,
  ⟨"targetName", False, .string d.target⟩,
  ⟨"typeName", False, .string d.type⟩,
  ⟨"properties", d.properties.entries = [], properties⟩,
  ⟨"baseDependencies", d.bases = [], .list bases⟩]

def slots (d : Dependency) (bases : List Writing) : List Slot :=
  d.slotsWith d.properties.writing bases

mutual

def writing : Dependency → Writing
  | ⟨source, target, type, properties, bases⟩ =>
    .record (slots ⟨source, target, type, properties, bases⟩ (writings bases))

def writings : List Dependency → List Writing
  | [] => []
  | d :: ds => d.writing :: writings ds

end

mutual

/-- The properties hold exact values only, also those of bases. -/
def Exact : Dependency → Prop
  | ⟨_, _, _, properties, bases⟩ => ExactMembers properties.entries ∧ ExactAll bases

def ExactAll : List Dependency → Prop
  | [] => True
  | d :: ds => d.Exact ∧ ExactAll ds

end

/-- The draft of a dependency in which the fields with the given keys have been read. -/
def draft (d : Dependency) (keys : List String) : Draft where
  source := drafted keys "sourceName" d.source
  target := drafted keys "targetName" d.target
  type := drafted keys "typeName" d.type
  properties := drafted keys "properties" d.properties
  bases := drafted keys "baseDependencies" d.bases

theorem finish_draft (d : Dependency) (properties : Writing) (bases : List Writing)
    (keys : List String) (h : ∀ slot ∈ d.slotsWith properties bases, slot.key ∈ keys ∨ slot.optional) :
    (d.draft keys).finish = .ok d := by
  simp only [slotsWith, List.forall_mem_cons, or_false] at h
  obtain ⟨hsource, htarget, htype, hproperties, hbases, _⟩ := h
  have hp : (drafted keys "properties" d.properties).getD .empty = d.properties :=
    getD_drafted (hproperties.imp_right Properties.eq_of_entries)
  simp only [Draft.finish, draft, require_drafted hsource, require_drafted htarget,
    require_drafted htype, hp, getD_drafted hbases]
  cases d
  rfl

theorem shapeReads (d : Dependency) {levels : Nat} {properties : Writing} {bases : List Writing}
    {base : Option (Reader Dependency)}
    (hp : Reads levels (Properties.reader levels) properties d.properties)
    (hb : Reads levels (listReader base) (.list bases) d.bases) :
    ShapeReads levels d.draft (shape levels base) (d.slotsWith properties bases) d where
  fields :=
    .cons (fieldReads_of rfl (by simp) (isSome_drafted · _ _) (by simp [draft])
        (reads_string levels d.source)) <|
    .cons (fieldReads_of rfl (by simp) (isSome_drafted · _ _) (by simp [draft])
        (reads_string levels d.target)) <|
    .cons (fieldReads_of rfl (by simp) (isSome_drafted · _ _) (by simp [draft])
        (reads_string levels d.type)) <|
    .cons (fieldReads_of rfl (by simp) (isSome_drafted · _ _) (by simp [draft]) hp) <|
    .cons (fieldReads_of rfl (by simp) (isSome_drafted · _ _) (by simp [draft]) hb) .nil
  nodup := by simp [slotsWith]
  start := by simp [draft, shape]
  finish := d.finish_draft properties bases

mutual

theorem reads : (d : Dependency) → d.Exact → ∀ levels, Reads levels (reader levels) d.writing d
  | ⟨_, _, _, _, _⟩, _, 0 => reads_record_none _ _ _
  | ⟨_, _, _, properties, _⟩, h, 1 =>
    reads_record _ (shapeReads _ (properties.reads h.1 0) (reads_list_none _ _))
  | ⟨_, _, _, properties, bases⟩, h, levels + 2 =>
    reads_record _ (shapeReads _ (properties.reads h.1 _) (reads_list (readsAll bases h.2 levels)))

theorem readsAll : (ds : List Dependency) → ExactAll ds → ∀ levels,
    List.Forall₂ (Reads levels (reader levels)) (writings ds) ds
  | [], _, _ => .nil
  | d :: ds, h, levels => .cons (reads d h.1 levels) (readsAll ds h.2 levels)

end

end Dependency

namespace Node

def slotsWith (n : Node) (properties : Writing) (dependencies : List Dependency → List Writing) :
    List Slot := [
  ⟨"name", False, .string n.name⟩,
  ⟨"properties", n.properties.entries = [], properties⟩,
  ⟨"parents", n.parents = [], .list (dependencies n.parents)⟩,
  ⟨"incomingDeps", n.incoming = [], .list (dependencies n.incoming)⟩,
  ⟨"outgoingDeps", n.outgoing = [], .list (dependencies n.outgoing)⟩,
  ⟨"containedDeps", n.contained = [], .list (dependencies n.contained)⟩]

def slots (n : Node) : List Slot := n.slotsWith n.properties.writing Dependency.writings

def writing (n : Node) : Writing := .record n.slots

structure Exact (n : Node) : Prop where
  properties : ExactMembers n.properties.entries
  parents : Dependency.ExactAll n.parents
  incoming : Dependency.ExactAll n.incoming
  outgoing : Dependency.ExactAll n.outgoing
  contained : Dependency.ExactAll n.contained

def draft (n : Node) (keys : List String) : Draft where
  name := drafted keys "name" n.name
  properties := drafted keys "properties" n.properties
  parents := drafted keys "parents" n.parents
  incoming := drafted keys "incomingDeps" n.incoming
  outgoing := drafted keys "outgoingDeps" n.outgoing
  contained := drafted keys "containedDeps" n.contained

theorem finish_draft (n : Node) (properties : Writing)
    (dependencies : List Dependency → List Writing) (keys : List String)
    (h : ∀ slot ∈ n.slotsWith properties dependencies, slot.key ∈ keys ∨ slot.optional) :
    (n.draft keys).finish = .ok n := by
  simp only [slotsWith, List.forall_mem_cons, or_false] at h
  obtain ⟨hname, hproperties, hparents, hincoming, houtgoing, hcontained, _⟩ := h
  have hp : (drafted keys "properties" n.properties).getD .empty = n.properties :=
    getD_drafted (hproperties.imp_right Properties.eq_of_entries)
  simp only [Draft.finish, draft, require_drafted hname, hp, getD_drafted hparents,
    getD_drafted hincoming, getD_drafted houtgoing, getD_drafted hcontained]
  rfl

theorem reads_dependencies {ds : List Dependency} {writings : List Writing}
    (h : ∀ levels, List.Forall₂ (Reads levels (Dependency.reader levels)) writings ds) : ∀ levels,
    Reads levels (listReader (match levels with
      | 0 => none
      | levels + 1 => some (Dependency.reader levels))) (.list writings) ds := by
  intro levels
  cases levels with
  | zero => exact reads_list_none _ ds
  | succ levels => exact reads_list (h levels)

theorem shapeReads (n : Node) {properties : Writing} {dependencies : List Dependency → List Writing}
    {levels : Nat} (hp : Reads levels (Properties.reader levels) properties n.properties)
    (hd : ∀ r levels, List.Forall₂ (Reads levels (Dependency.reader levels))
      (dependencies (n.related r)) (n.related r)) :
    ShapeReads levels n.draft (shape levels) (n.slotsWith properties dependencies) n where
  fields :=
    .cons (fieldReads_of rfl (by simp) (isSome_drafted · _ _) (by simp [draft])
        (reads_string levels n.name)) <|
    .cons (fieldReads_of rfl (by simp) (isSome_drafted · _ _) (by simp [draft]) hp) <|
    .cons (fieldReads_of rfl (by simp) (isSome_drafted · _ _) (by simp [draft, related])
        (reads_dependencies (hd .parent) levels)) <|
    .cons (fieldReads_of rfl (by simp) (isSome_drafted · _ _) (by simp [draft, related])
        (reads_dependencies (hd .incoming) levels)) <|
    .cons (fieldReads_of rfl (by simp) (isSome_drafted · _ _) (by simp [draft, related])
        (reads_dependencies (hd .outgoing) levels)) <|
    .cons (fieldReads_of rfl (by simp) (isSome_drafted · _ _) (by simp [draft, related])
        (reads_dependencies (hd .contained) levels)) .nil
  nodup := by simp [slotsWith]
  start := by simp [draft, shape]
  finish := n.finish_draft properties dependencies

theorem Exact.related {n : Node} (h : n.Exact) (r : Relation) : Dependency.ExactAll (n.related r) := by
  cases r with
  | parent => exact h.parents
  | incoming => exact h.incoming
  | outgoing => exact h.outgoing
  | contained => exact h.contained

theorem reads (n : Node) (h : n.Exact) : ∀ levels, Reads levels (reader levels) n.writing n := by
  intro levels
  cases levels with
  | zero => exact reads_record_none _ _ _
  | succ levels =>
    exact reads_record _ (n.shapeReads (n.properties.reads h.properties levels)
      fun r => Dependency.readsAll (n.related r) (h.related r))

end Node

namespace GraphInfo

def slots (g : GraphInfo) : List Slot := [⟨"info", False, .string g.info⟩]

def writing (g : GraphInfo) : Writing := .record g.slots

def draft (g : GraphInfo) (keys : List String) : Draft where
  info := drafted keys "info" g.info

theorem shapeReads (g : GraphInfo) (levels : Nat) : ShapeReads levels g.draft shape g.slots g where
  fields := .cons (fieldReads_of rfl (by simp) (isSome_drafted · _ _) (by simp [draft])
    (reads_string levels g.info)) .nil
  nodup := by simp [slots]
  start := by simp [draft, shape]
  finish keys h := by
    simp only [slots, List.forall_mem_cons, or_false] at h
    simp only [shape, draft, require_drafted h.1]
    rfl

theorem reads (g : GraphInfo) (levels : Nat) : Reads (levels + 1) reader g.writing g :=
  reads_record _ (g.shapeReads levels)

end GraphInfo

end GraphBrowser
