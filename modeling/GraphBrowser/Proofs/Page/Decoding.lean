import GraphBrowser.Proofs.Graph.Compact
import GraphBrowser.Proofs.Page.Layout

namespace GraphBrowser

open Json

namespace ResultPage

/-- The properties in the content hold exact values only. -/
def Exact (p : ResultPage Node) : Prop := ∀ n ∈ p.content, n.Exact

theorem compact_content {ns : List Node} (h : ∀ n ∈ ns, n.Exact) :
    List.Forall₂ Compact (ns.map Node.writing) (ns.map Node.value) := by
  induction ns with
  | nil => exact .nil
  | cons n ns ih =>
    rw [List.forall_mem_cons] at h
    exact .cons (n.compact h.1) (ih h.2)

theorem compact (p : ResultPage Node) (h : p.Exact) :
    Compact (p.writing Node.writing) (p.value Node.value) :=
  compact_record (by simp [slots]) <|
    .cons ⟨rfl, compact_list (compact_content h)⟩ <|
    .cons ⟨rfl, compact_int p.number.toNat⟩ <|
    .cons ⟨rfl, compact_int p.size.toNat⟩ <|
    .cons ⟨rfl, compact_int p.totalElements.toNat⟩ <|
    .cons ⟨rfl, compact_int p.totalPages.toNat⟩ <|
    .cons ⟨rfl, compact_int p.numberOfElements.toNat⟩ <|
    .cons ⟨rfl, compact_bool p.first⟩ <|
    .cons ⟨rfl, compact_bool p.last⟩ .nil

theorem parse_layout {p : ResultPage Node} (h : p.Exact) {depth : Nat} {s : String}
    (hs : (p.writing Node.writing).Text depth s) : parse s = within maxDepth depth p :=
  readText_text (p.reads (fun n hn => n.reads (h n hn)) maxDepth) hs

end ResultPage

theorem Dependency.parse_layout {d : Dependency} (h : d.Exact) {depth : Nat} {s : String}
    (hs : d.writing.Text depth s) : parse s = within maxDepth depth d :=
  readText_text (d.reads h maxDepth) hs

theorem Node.parse_layout {n : Node} (h : n.Exact) {depth : Nat} {s : String}
    (hs : n.writing.Text depth s) : parse s = within maxDepth depth n :=
  readText_text (n.reads h maxDepth) hs

theorem GraphInfo.parse_layout {g : GraphInfo} {depth : Nat} {s : String}
    (hs : g.writing.Text depth s) : parse s = within maxDepth depth g :=
  readText_text (g.reads 126) hs

/-- A value is decoded from each of its texts: with each record as an object with foreign members and
without empty fields, or as a list, at every place of its own. -/
theorem decoding_ignores_layout {depth : Nat} (hdepth : depth ≤ 127) (s : String) :
    (∀ d : Dependency, d.Exact → d.writing.Text depth s → Dependency.parse s = .ok d) ∧
    (∀ n : Node, n.Exact → n.writing.Text depth s → Node.parse s = .ok n) ∧
    (∀ p : ResultPage Node, p.Exact → (p.writing Node.writing).Text depth s →
      ResultPage.parse s = .ok p) ∧
    (∀ g : GraphInfo, g.writing.Text depth s → GraphInfo.parse s = .ok g) := by
  have hwithin : ∀ {α : Type} (x : α), within maxDepth depth x = .ok x := fun x => if_pos hdepth
  refine ⟨?_, ?_, ?_, ?_⟩
  · intro d hd hs
    rw [Dependency.parse_layout hd hs, hwithin]
  · intro n hn hs
    rw [Node.parse_layout hn hs, hwithin]
  · intro p hp hs
    rw [ResultPage.parse_layout hp hs, hwithin]
  · intro g hs
    rw [GraphInfo.parse_layout hs, hwithin]

/-- The parent of a node, in an object with a foreign member, without empty fields and from last to
first. -/
def parentText : List Char :=
  "\x7b\"x\":[[]],\"typeName\":\"t\",\"targetName\":\"a\",\"sourceName\":\"p\"\x7d".toList

theorem parentText_layout : (Dependency.writing ⟨"p", "a", "t", .empty, []⟩).Has 1 parentText := by
  have hforeign : AnyValue ['[', '[', ']', ']'] :=
    .list blank_nil (.emptyList blank_nil) (.close blank_nil)
  have hx : (Writing.member "x" .foreign).Has 0 ['"', 'x', '"', ':', '[', '[', ']', ']'] :=
    ⟨['x', '"'], [], [], _, charsText_escaped ['x'], blank_nil, blank_nil, ⟨rfl, hforeign⟩, rfl⟩
  have hrow : Row '\x7d' true _ 0 _ :=
    .first blank_nil hx <|
    .comma blank_nil blank_nil (has_member "typeName" (compact_string "t")) <|
    .comma blank_nil blank_nil (has_member "targetName" (compact_string "a")) <|
    .comma blank_nil blank_nil (has_member "sourceName" (compact_string "p")) <|
    .close blank_nil
  let present : List Slot := [⟨"typeName", False, .string "t"⟩, ⟨"targetName", False, .string "a"⟩,
    ⟨"sourceName", False, .string "p"⟩]
  refine .inl ⟨present, _, by decide, ?_, ?_, .foreign (by decide) (.field (.field (.field .done))),
    ⟨_, _, hrow, rfl, by decide⟩⟩
  · simp [present, Dependency.slots, Dependency.slotsWith]
  · simp [present, Dependency.slots, Dependency.slotsWith, Properties.empty]

def childNode : Node := { name := "a", parents := [⟨"p", "a", "t", .empty, []⟩] }

def childText : List Char := "[\"a\", \x7b\x7d, [".toList ++ (parentText ++ "]]".toList)

theorem childText_layout : childNode.writing.Text 3 (String.ofList childText) := by
  have hspace : Blank [' '] := fun c hc => .inl (List.mem_singleton.mp hc)
  have hproperties : (Writing.object []).Has 1 ['\x7b', '\x7d'] :=
    ⟨_, _, .close blank_nil, rfl, rfl⟩
  have hparents : (Writing.list [_]).Has 2 _ :=
    ⟨1, _, .first blank_nil parentText_layout (.close blank_nil), rfl, rfl⟩
  have hrow : Row ']' true _ 2 _ :=
    .first blank_nil (compact_string "a") <|
    .comma blank_nil hspace hproperties <|
    .comma blank_nil hspace hparents <|
    .close blank_nil
  refine ⟨[], _, [], blank_nil, .inr ⟨childNode.slots.take 3, childNode.slots.drop 3, rfl, ?_,
    ⟨_, _, hrow, rfl, rfl⟩⟩, blank_nil, by decide⟩
  simp [childNode, Node.slots, Node.slotsWith]

theorem decoding_ignores_layout_childText :
    3 ≤ 127 ∧ childNode.Exact ∧ childNode.writing.Text 3 (String.ofList childText) ∧
      Node.parse (String.ofList childText) = .ok childNode := by
  have hexact : childNode.Exact := ⟨trivial, ⟨⟨trivial, trivial⟩, trivial⟩, trivial, trivial, trivial⟩
  exact ⟨by decide, hexact, childText_layout,
    (decoding_ignores_layout (by decide) (String.ofList childText)).2.1 childNode hexact childText_layout⟩

theorem mapError_within (depth : Nat) (x : α) :
    (within maxDepth depth x).mapError DecodeError.message =
      if depth ≤ 127 then .ok x else .error "recursion limit exceeded" := by
  unfold within maxDepth
  split <;> rfl

/-- What is written out is decoded to itself if at most 127 brackets are open in it, and is refused
otherwise. -/
theorem decoding_inverts_encoding :
    (∀ d : Dependency, d.Exact → (Dependency.parse d.value.text).mapError DecodeError.message =
      if d.value.nesting ≤ 127 then .ok d else .error "recursion limit exceeded") ∧
    (∀ n : Node, n.Exact → (Node.parse n.value.text).mapError DecodeError.message =
      if n.value.nesting ≤ 127 then .ok n else .error "recursion limit exceeded") ∧
    (∀ p : ResultPage Node, p.Exact →
      (ResultPage.parse (p.value Node.value).text).mapError DecodeError.message =
        if (p.value Node.value).nesting ≤ 127 then .ok p else .error "recursion limit exceeded") ∧
    (∀ g : GraphInfo, (GraphInfo.parse g.value.text).mapError DecodeError.message =
      if g.value.nesting ≤ 127 then .ok g else .error "recursion limit exceeded") := by
  refine ⟨?_, ?_, ?_, ?_⟩
  · intro d hd
    rw [Dependency.parse_layout hd (d.compact hd).text, mapError_within]
  · intro n hn
    rw [Node.parse_layout hn (n.compact hn).text, mapError_within]
  · intro p hp
    rw [ResultPage.parse_layout hp (p.compact hp).text, mapError_within]
  · intro g
    rw [GraphInfo.parse_layout g.compact.text, mapError_within]

/-- Empty lists inside each other. -/
def tower : Nat → Value
  | 0 => .null
  | n + 1 => .array [tower n]

theorem nesting_tower (n : Nat) : (tower n).nesting = n := by
  induction n with
  | zero => rfl
  | succ n ih => simp [tower, Value.nesting, itemsNesting, ih]

theorem exact_tower (n : Nat) : (tower n).Exact := by
  induction n with
  | zero => trivial
  | succ n ih => exact ⟨ih, trivial⟩

def towering (n : Nat) : Dependency where
  source := "a"
  target := "b"
  type := "t"
  properties := .ofList [("height", tower n)]

theorem decoding_inverts_encoding_towering :
    ((towering 125).Exact ∧ (Dependency.parse (towering 125).value.text).mapError
      DecodeError.message = .ok (towering 125)) ∧
    ((towering 126).Exact ∧ (Dependency.parse (towering 126).value.text).mapError
      DecodeError.message = .error "recursion limit exceeded") := by
  have hexact : ∀ n, (towering n).Exact := fun n => ⟨⟨exact_tower n, trivial⟩, trivial⟩
  have hnesting : ∀ n, (towering n).value.nesting = n + 2 := by
    intro n
    change max 0 (max 0 (max 0 (max (max (tower n).nesting 0 + 1) (max (0 + 1) 0)))) + 1 = n + 2
    rw [nesting_tower]
    omega
  refine ⟨⟨hexact 125, ?_⟩, ⟨hexact 126, ?_⟩⟩
  · rw [decoding_inverts_encoding.1 (towering 125) (hexact 125), hnesting, if_pos (by decide)]
  · rw [decoding_inverts_encoding.1 (towering 126) (hexact 126), hnesting, if_neg (by decide)]

end GraphBrowser
