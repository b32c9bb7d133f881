import GraphBrowser.Proofs.Json.Compact
import GraphBrowser.Proofs.Json.Members
import GraphBrowser.Proofs.Page.Layout
import GraphBrowser.Proofs.Report.Section

namespace GraphBrowser

open Json

namespace Properties

/-- The properties hold the keys of the members, each at its first place and with its last value, and
they are shown in this order. -/
structure Follows (p : Properties) (ms : List (String × Value)) : Prop where
  keys : p.keys = (ms.map Prod.fst).eraseDups
  get? : ∀ key, p.get? key = (lastValue? key ms).map Value.sorted
  lines : Report.propertyLines p = if ms.isEmpty then [] else "" :: "Properties" ::
    p.keys.map fun key =>
      Report.propertyLine (Report.keyWidth p.keys) key ((p.get? key).getD .null)

theorem follows (ms : List (String × Value)) : (ofList (sortedMembers ms)).Follows ms where
  keys := by rw [keys_ofList, map_fst_sortedMembers]
  get? key := by rw [get?_ofList, lastValue?_sortedMembers]
  lines := by
    have hempty : (ofList (sortedMembers ms)).keys.isEmpty = ms.isEmpty := by
      rw [keys, List.isEmpty_map, ← isEmpty, isEmpty_ofList, sortedMembers_eq, List.isEmpty_map]
    rw [Report.propertyLines_eq, hempty]

/-- Properties as any members that give them, one after the other. -/
def texts (p : Properties) : Writing where
  Has depth text := ∃ ms, ofList (sortedMembers ms) = p ∧
    (Writing.object (verbatimMembers ms)).Has depth text
  begins := by
    rintro _ _ ⟨ms, _, h⟩
    exact (Writing.object (verbatimMembers ms)).begins h

theorem reads_members (ms : List (String × Value)) : ∀ levels,
    Reads levels (reader levels) (.object (verbatimMembers ms)) (ofList (sortedMembers ms)) := by
  intro levels
  cases levels with
  | zero => exact (reads_map_none (verbatimMembers ms) (sortedMembers ms)).mapped ofList
  | succ levels => exact (reads_map (reads_verbatimMembers ms levels)).mapped ofList

theorem reads_texts (p : Properties) (levels : Nat) : Reads levels (reader levels) p.texts p := by
  rintro depth text ⟨ms, rfl, h⟩
  exact reads_members ms levels h

end Properties

namespace Dependency

mutual

def texts : Dependency → Writing
  | ⟨source, target, type, properties, bases⟩ =>
    .record (slotsWith ⟨source, target, type, properties, bases⟩ properties.texts (textsAll bases))

def textsAll : List Dependency → List Writing
  | [] => []
  | d :: ds => d.texts :: textsAll ds

end

def written (d : Dependency) (properties : Writing) : Writing :=
  .record (d.slotsWith properties (textsAll d.bases))

mutual

theorem reads_texts : (d : Dependency) → ∀ levels, Reads levels (reader levels) d.texts d
  | ⟨_, _, _, _, _⟩, 0 => reads_record_none _ _ _
  | ⟨_, _, _, properties, _⟩, 1 =>
    reads_record _ (shapeReads _ (properties.reads_texts 0) (reads_list_none _ _))
  | ⟨_, _, _, properties, bases⟩, levels + 2 =>
    reads_record _ (shapeReads _ (properties.reads_texts _) (reads_list (reads_textsAll bases levels)))

theorem reads_textsAll : (ds : List Dependency) → ∀ levels,
    List.Forall₂ (Reads levels (reader levels)) (textsAll ds) ds
  | [], _ => .nil
  | d :: ds, levels => .cons (reads_texts d levels) (reads_textsAll ds levels)

end

theorem reads_written (d : Dependency) {properties : Writing}
    (h : ∀ levels, Reads levels (Properties.reader levels) properties d.properties) : ∀ levels,
    Reads levels (reader levels) (d.written properties) d
  | 0 => reads_record_none _ _ _
  | 1 => reads_record _ (shapeReads d (h 0) (reads_list_none _ _))
  | levels + 2 => reads_record _ (shapeReads d (h _) (reads_list (reads_textsAll d.bases levels)))

def built (d : Dependency) (ms : List (String × Value)) : Dependency :=
  (sortedMembers ms).foldl (fun d m => d.withProperty m.1 m.2) { d with properties := .empty }

theorem foldl_withProperty (d : Dependency) (ms : List (String × Value)) :
    ms.foldl (fun d m => d.withProperty m.1 m.2) d =
      { d with properties := ms.foldl (fun p m => p.insert m.1 m.2) d.properties } := by
  induction ms generalizing d with
  | nil => cases d; rfl
  | cons m ms ih => exact ih (d.withProperty m.1 m.2)

theorem properties_built (d : Dependency) (ms : List (String × Value)) :
    (d.built ms).properties = .ofList (sortedMembers ms) := by
  rw [built, foldl_withProperty]
  rfl

end Dependency

namespace Node

def written (n : Node) (properties : Writing) : Writing :=
  .record (n.slotsWith properties Dependency.textsAll)

theorem reads_written (n : Node) {properties : Writing}
    (h : ∀ levels, Reads levels (Properties.reader levels) properties n.properties) : ∀ levels,
    Reads levels (reader levels) (n.written properties) n := by
  intro levels
  cases levels with
  | zero => exact reads_record_none _ _ _
  | succ levels =>
    exact reads_record _ (n.shapeReads (h levels) fun r => Dependency.reads_textsAll (n.related r))

def texts (n : Node) : Writing := n.written n.properties.texts

def built (n : Node) (ms : List (String × Value)) : Node :=
  (sortedMembers ms).foldl (fun n m => n.withProperty m.1 m.2) { n with properties := .empty }

theorem foldl_withProperty (n : Node) (ms : List (String × Value)) :
    ms.foldl (fun n m => n.withProperty m.1 m.2) n =
      { n with properties := ms.foldl (fun p m => p.insert m.1 m.2) n.properties } := by
  induction ms generalizing n with
  | nil => rfl
  | cons m ms ih => exact ih (n.withProperty m.1 m.2)

theorem properties_built (n : Node) (ms : List (String × Value)) :
    (n.built ms).properties = .ofList (sortedMembers ms) := by
  rw [built, foldl_withProperty]
  rfl

end Node

theorem Node.parse_built (n : Node) (ms : List (String × Value)) {depth : Nat} {s : String}
    (hdepth : depth ≤ maxDepth)
    (hs : ((n.built ms).written (.object (verbatimMembers ms))).Text depth s) :
    Node.parse s = .ok (n.built ms) := by
  have hreads := (n.built ms).reads_written fun levels =>
    n.properties_built ms ▸ Properties.reads_members ms levels
  exact readText_ok (hreads maxDepth) hdepth hs

theorem Dependency.parse_built (d : Dependency) (ms : List (String × Value)) {depth : Nat} {s : String}
    (hdepth : depth ≤ maxDepth)
    (hs : ((d.built ms).written (.object (verbatimMembers ms))).Text depth s) :
    Dependency.parse s = .ok (d.built ms) := by
  have hreads := (d.built ms).reads_written fun levels =>
    d.properties_built ms ▸ Properties.reads_members ms levels
  exact readText_ok (hreads maxDepth) hdepth hs

/-- Whatever the members of the properties are, a node or a dependency is read as if they had been given
to it one after the other. Inside a value, however, members may stand in any order. -/
theorem decoded_properties_built (ms : List (String × Value)) :
    (∀ (n : Node) depth s, depth ≤ maxDepth →
      ((n.built ms).written (.object (verbatimMembers ms))).Text depth s →
      Node.parse s = .ok (n.built ms) ∧ (n.built ms).properties.Follows ms) ∧
    (∀ (d : Dependency) depth s, depth ≤ maxDepth →
      ((d.built ms).written (.object (verbatimMembers ms))).Text depth s →
      Dependency.parse s = .ok (d.built ms) ∧ (d.built ms).properties.Follows ms) ∧
    (∀ (p : ResultPage Node) depth s, depth ≤ maxDepth → (p.writing Node.texts).Text depth s →
      ResultPage.parse s = .ok p) ∧
    (∀ v w, Rearranged v w → v.sorted = w.sorted ∧ ∀ before key after,
      (∀ n : Node, n.built (before ++ (key, v) :: after) = n.built (before ++ (key, w) :: after)) ∧
      ∀ d : Dependency, d.built (before ++ (key, v) :: after) = d.built (before ++ (key, w) :: after)) ∧
    ∀ members, ∃ sorted, (Value.object members).sorted = .object sorted ∧ ByteOrdered sorted ∧
      ∀ key, Value.get? key (.object sorted) = (lastValue? key members).map Value.sorted := by
  have hfollows := Properties.follows ms
  refine ⟨fun n depth s hdepth hs => ⟨n.parse_built ms hdepth hs, n.properties_built ms ▸ hfollows⟩,
    fun d depth s hdepth hs => ⟨d.parse_built ms hdepth hs, d.properties_built ms ▸ hfollows⟩,
    fun p depth s hdepth hs => ?_, fun v w h => ⟨h.sorted_eq, fun before key after => ?_⟩,
    sorted_object⟩
  · have hreads := p.reads fun n _ levels => n.reads_written n.properties.reads_texts levels
    exact readText_ok (hreads maxDepth) hdepth hs
  · have hmembers := sortedMembers_replaced h.sorted_eq before key after
    simp only [Node.built, Dependency.built, hmembers, implies_true, and_self]

def sampleMembers : List (String × Value) :=
  [("z", .null), ("a", .object [("y", .bool true), ("x", .null)]), ("z", .string "s")]

def sampleDependency : Dependency := ⟨"a", "b", "t", .empty, []⟩

def sampleFields : List (String × Value) :=
  [("sourceName", .string "a"), ("targetName", .string "b"), ("typeName", .string "t"),
    ("properties", .object sampleMembers), ("baseDependencies", .array [])]

theorem sampleFields_written :
    ((sampleDependency.built sampleMembers).written (.object (verbatimMembers sampleMembers))).Text 3
      (Value.object sampleFields).text := by
  have hinner : Compact (.object _) (.object [("y", .bool true), ("x", .null)]) :=
    compact_object (.cons ⟨_, rfl, compact_bool true⟩ (.cons ⟨.null, rfl, rfl, rfl⟩ .nil))
  have hmembers : Compact (.object (verbatimMembers sampleMembers)) (.object sampleMembers) :=
    compact_object (.cons ⟨.null, rfl, rfl, rfl⟩ (.cons ⟨_, rfl, hinner⟩
      (.cons ⟨_, rfl, compact_string "s"⟩ .nil)))
  have hslots : List.Forall₂ CompactField
      ((sampleDependency.built sampleMembers).slotsWith (.object (verbatimMembers sampleMembers)) [])
      sampleFields :=
    .cons ⟨rfl, compact_string "a"⟩ <|
    .cons ⟨rfl, compact_string "b"⟩ <|
    .cons ⟨rfl, compact_string "t"⟩ <|
    .cons ⟨rfl, hmembers⟩ <|
    .cons ⟨rfl, compact_list .nil⟩ .nil
  exact (compact_record (by decide) hslots).text

theorem decoded_properties_built_sample :
    ∃ d, Dependency.parse (Value.object sampleFields).text = .ok d ∧ d.properties.keys = ["z", "a"] ∧
      d.properties.get? "z" = some (.string "s") ∧
      d.properties.get? "a" = some (.object [("x", .null), ("y", .bool true)]) := by
  obtain ⟨hparse, hfollows⟩ :=
    (decoded_properties_built sampleMembers).2.1 sampleDependency 3 _ (by decide) sampleFields_written
  refine ⟨_, hparse, ?_, ?_, ?_⟩
  · rw [hfollows.keys]
    decide
  · rw [hfollows.get?]
    rfl
  · rw [hfollows.get?]
    rfl

end GraphBrowser
