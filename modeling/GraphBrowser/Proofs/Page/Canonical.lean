import GraphBrowser.Proofs.Graph.Accepted
import GraphBrowser.Proofs.Page.Decoding
import Mathlib

namespace GraphBrowser

open Json

namespace ResultPage

def WithoutFloats (p : ResultPage Node) : Prop := ∀ n ∈ p.content, n.WithoutFloats

abbrev Fits : Nat → ResultPage Node → Prop := Json.Fits (value Node.value) WithoutFloats Exact

abbrev ContentFits : Nat → List Node → Prop :=
  Json.FitsAll Node.value Node.WithoutFloats Node.Exact

theorem fits_finish {e : Nat} {draft : Draft Node} {p : ResultPage Node}
    (hfinish : draft.finish = .ok p) (h : ContentFits e (draft.content.getD [])) :
    p.Fits (e + 1) := by
  obtain ⟨number, -, hfinish⟩ := bind_eq_ok.mp hfinish
  obtain ⟨size, -, hfinish⟩ := bind_eq_ok.mp hfinish
  obtain ⟨totalElements, -, hfinish⟩ := bind_eq_ok.mp hfinish
  obtain ⟨totalPages, -, hfinish⟩ := bind_eq_ok.mp hfinish
  obtain ⟨numberOfElements, -, hfinish⟩ := bind_eq_ok.mp hfinish
  obtain ⟨first, -, hfinish⟩ := bind_eq_ok.mp hfinish
  obtain ⟨last, -, hfinish⟩ := bind_eq_ok.mp hfinish
  cases hfinish
  constructor
  · apply Nat.succ_le_succ
    apply membersNesting_le
    simp only [List.forall_mem_cons, List.not_mem_nil, false_implies, implies_true, and_true]
    exact ⟨h.nesting_le, Nat.zero_le e, Nat.zero_le e, Nat.zero_le e, Nat.zero_le e, Nat.zero_le e,
      Nat.zero_le e, Nat.zero_le e⟩
  · exact h.exact

theorem shapeYields {item : Option (Reader Node)}
    (h : Yields 0 (fun d => ContentFits (d + 1)) (listReader item)) :
    ShapeYields (fun d draft => ContentFits (d + 1) (draft.content.getD []))
      (fun d => Fits (d + 2)) (shape item) where
  start d := fitsAll_nil d
  fields := by
    simp only [shape, List.forall_mem_cons, List.not_mem_nil, false_implies, implies_true, and_true]
    exact ⟨fieldYields_of h fun _ _ _ hns _ => hns,
      fieldYields_of yields_word32 fun _ _ _ _ hd => hd,
      fieldYields_of yields_word32 fun _ _ _ _ hd => hd,
      fieldYields_of yields_word64 fun _ _ _ _ hd => hd,
      fieldYields_of yields_word32 fun _ _ _ _ hd => hd,
      fieldYields_of yields_word32 fun _ _ _ _ hd => hd,
      fieldYields_of yields_bool fun _ _ _ _ hd => hd,
      fieldYields_of yields_bool fun _ _ _ _ hd => hd⟩
  finish _ _ _ := fits_finish

theorem yields : ∀ levels, Yields 0 (fun d => Fits (d + 1)) (reader Node.reader levels)
  | 0 => yields_record_none (σ := Draft Node) _ _
  | 1 => yields_fits_record _ (shapeYields (yields_list_none _))
  | levels + 2 => yields_fits_record _ (shapeYields (yields_fitsAll (Node.yields levels)))

end ResultPage

variable {α : Type}

def reencode (parse : String → Except DecodeError α) (value : α → Value) (s : String) :
    Except DecodeError String :=
  (parse s).map fun x => (value x).text

/-- The text of a value that has been decoded stands for the same value, and to decode and write it
out once more changes nothing. -/
structure Settles (parse : String → Except DecodeError α) (value : α → Value) (s : String) (x : α) :
    Prop where
  decoded : parse (value x).text = .ok x
  idempotent : (reencode parse value s >>= reencode parse value) = reencode parse value s

theorem settles {value : α → Value} {WithoutFloats Exact : α → Prop} {reader : Reader α}
    (hreader : Yields 0 (fun d => Fits value WithoutFloats Exact (d + 1)) reader)
    (hwritten : ∀ x, Exact x →
      readText reader (value x).text = within maxDepth (value x).nesting x)
    {s : String} (hs : openBrackets s ≤ 126) {x : α} (hx : readText reader s = .ok x)
    (hf : WithoutFloats x) : Settles (readText reader) value s x := by
  obtain ⟨hnesting, hexact⟩ := readText_yields hreader hx hs
  have hdecoded : readText reader (value x).text = .ok x := by
    rw [hwritten x (hexact hf)]
    exact if_pos hnesting
  have hreencode : reencode (readText reader) value s = .ok (value x).text :=
    map_eq_ok.mpr ⟨x, hx, rfl⟩
  refine ⟨hdecoded, ?_⟩
  rw [hreencode]
  exact map_eq_ok.mpr ⟨x, hdecoded, rfl⟩

/-- A dependency at the bottom of `n` others. -/
def chain : Nat → Dependency
  | 0 => ⟨"a", "b", "t", .empty, []⟩
  | n + 1 => ⟨"a", "b", "t", .empty, [chain n]⟩

def chainHead : List Char := ['[', '"', 'a', '"', ',', '"', 'b', '"', ',', '"', 't', '"']

def chainText : Nat → List Char
  | 0 => chainHead ++ [']']
  | n + 1 => chainHead ++ ([',', '\x7b', '\x7d', ',', '['] ++ (chainText n ++ [']'] ++ [']']))

theorem deepest_chainHead (n : Nat) (rest : List Char) :
    deepest .outside n (chainHead ++ rest) = deepest .outside (n + 1) rest := by
  have hrest := le_deepest .outside (n + 1) rest
  simp only [chainHead, List.cons_append, List.nil_append, deepest, Place.next, Place.openBehind,
    Char.reduceEq, if_true, if_false, or_false]
  omega

theorem deepest_chainText (n opened : Nat) (rest : List Char) :
    deepest .outside opened (chainText n ++ rest) =
      max (opened + (2 * n + 1)) (deepest .outside opened rest) := by
  induction n generalizing opened rest with
  | zero =>
    rw [chainText, List.append_assoc, deepest_chainHead]
    rfl
  | succ n ih =>
    have hrest := le_deepest .outside opened rest
    rw [chainText, List.append_assoc, deepest_chainHead]
    simp only [List.append_assoc, List.cons_append, List.nil_append, deepest, Place.next,
      Place.openBehind, Char.reduceEq, if_true, if_false, or_false, or_true, ih, Nat.add_sub_cancel]
    omega

theorem nesting_chain (n : Nat) : (chain n).value.nesting = 2 * n + 2 := by
  induction n with
  | zero => rfl
  | succ n ih =>
    change max 0 (max 0 (max 0 (max 1 (max (max (chain n).value.nesting 0 + 1) 0)))) + 1 = _
    rw [ih]
    omega

theorem exact_chain (n : Nat) : (chain n).Exact := by
  induction n with
  | zero => exact ⟨trivial, trivial⟩
  | succ n ih => exact ⟨trivial, ih, trivial⟩

theorem chain_withoutFloats (n : Nat) : (chain n).WithoutFloats := by
  induction n with
  | zero => exact .intro (List.forall_mem_nil _) (List.forall_mem_nil _)
  | succ n ih => exact .intro (List.forall_mem_nil _) (List.forall_mem_singleton.mpr ih)

theorem chainText_layout (n : Nat) : (chain n).writing.Has (2 * n + 1) (chainText n) := by
  induction n with
  | zero =>
    have hrow : Row ']' true _ 0 _ :=
      .first blank_nil (compact_string "a") <|
      .comma blank_nil blank_nil (compact_string "b") <|
      .comma blank_nil blank_nil (compact_string "t") <|
      .close blank_nil
    refine .inr ⟨((chain 0).slots []).take 3, ((chain 0).slots []).drop 3, rfl, ?_,
      ⟨_, _, hrow, rfl, rfl⟩⟩
    simp [chain, Dependency.slots, Dependency.slotsWith, Properties.empty]
  | succ n ih =>
    have hproperties : (Writing.object []).Has 1 ['\x7b', '\x7d'] :=
      ⟨_, _, .close blank_nil, rfl, rfl⟩
    have hbases : (Writing.list [(chain n).writing]).Has (2 * n + 2) ('[' :: (chainText n ++ [']'])) :=
      ⟨2 * n + 1, _, .first blank_nil ih (.close blank_nil), rfl, rfl⟩
    have hrow : Row ']' true _ (max 0 (max 0 (max 0 (max 1 (max (2 * n + 2) 0))))) _ :=
      .first blank_nil (compact_string "a") <|
      .comma blank_nil blank_nil (compact_string "b") <|
      .comma blank_nil blank_nil (compact_string "t") <|
      .comma blank_nil blank_nil hproperties <|
      .comma blank_nil blank_nil hbases <|
      .close blank_nil
    exact .inr ⟨(chain (n + 1)).slots _, [], (List.append_nil _).symm,
      fun _ hslot => absurd hslot List.not_mem_nil, ⟨_, _, hrow, by omega, rfl⟩⟩

/-- A chain is written with one bracket more than in its text; so the text of `chain 63` is refused. -/
theorem chain_grows (n : Nat) :
    openBrackets (String.ofList (chainText n)) = 2 * n + 1 ∧
      Dependency.parse (String.ofList (chainText n)) = within maxDepth (2 * n + 1) (chain n) ∧
      Dependency.parse (chain n).value.text = within maxDepth (2 * n + 2) (chain n) := by
  have hexact := exact_chain n
  refine ⟨?_, ?_, ?_⟩
  · have hdeepest := deepest_chainText n 0 []
    rw [List.append_nil] at hdeepest
    rw [openBrackets, String.toList_ofList, hdeepest, deepest]
    omega
  · have htext : (chain n).writing.Text (2 * n + 1) (String.ofList (chainText n)) :=
      ⟨[], _, [], blank_nil, chainText_layout n, blank_nil, by simp⟩
    exact Dependency.parse_layout hexact htext
  · rw [Dependency.parse_layout hexact ((chain n).compact hexact).text, nesting_chain]

/-- Whatever text a value without binary numbers is decoded from, its own text is decoded to it again,
if no more than 126 brackets are open anywhere in the first text. With 127 of them it may be refused. -/
theorem reencoding_settles :
    (∀ s, openBrackets s ≤ 126 →
      (∀ d : Dependency, Dependency.parse s = .ok d → d.WithoutFloats →
        Settles Dependency.parse Dependency.value s d) ∧
      (∀ n : Node, Node.parse s = .ok n → n.WithoutFloats → Settles Node.parse Node.value s n) ∧
      (∀ p : ResultPage Node, ResultPage.parse s = .ok p → p.WithoutFloats →
        Settles ResultPage.parse (ResultPage.value Node.value) s p) ∧
      (∀ g : GraphInfo, GraphInfo.parse s = .ok g →
        Settles GraphInfo.parse GraphInfo.value s g)) ∧
    ∃ s d, openBrackets s = 127 ∧ Dependency.parse s = .ok d ∧ d.WithoutFloats ∧
      Dependency.parse d.value.text = .error .nestingTooDeep := by
  refine ⟨fun s hs => ⟨?_, ?_, ?_, ?_⟩, ?_⟩
  · intro d hd hf
    exact settles (Dependency.yields maxDepth)
      (fun d hd => Dependency.parse_layout hd (d.compact hd).text) hs hd hf
  · intro n hn hf
    exact settles (Node.yields maxDepth) (fun n hn => Node.parse_layout hn (n.compact hn).text) hs hn hf
  · intro p hp hf
    exact settles (ResultPage.yields maxDepth)
      (fun p hp => ResultPage.parse_layout hp (p.compact hp).text) hs hp hf
  · intro g hg
    exact settles GraphInfo.yields (fun g _ => GraphInfo.parse_layout g.compact.text) hs hg trivial
  · obtain ⟨hbrackets, hread, hwritten⟩ := chain_grows 63
    exact ⟨_, chain 63, hbrackets, hread, chain_withoutFloats 63, hwritten⟩

/-- A dependency with its fields in another order, a foreign member and an escape. -/
def edgeText : List Char :=
  " \x7b\"typeName\":\"t\", \"x\":[[\"]\"]],\"targetName\":\"\\u0061\",\"sourceName\":\"p\"\x7d".toList

/-- A node as a list, with a property that is given twice and without its last fields. -/
def vertexText : List Char :=
  "[\"a\",\x7b\"x\":1,\"y\":2,\"x\":[true]\x7d,[[\"p\",\"a\",\"t\"]] ]".toList

def sheetText : List Char := "[[[\"a\"]],0,1,1,1,1,true,true]".toList

def noteText : List Char := "[ \"i\"]".toList

def edge : Dependency := ⟨"p", "a", "t", .empty, []⟩

def vertex : Node where
  name := "a"
  properties := .ofList [("x", .array [.bool true]), ("y", .number (.int 2))]
  parents := [edge]

def leaf : Node := { name := "a" }

def sheet : ResultPage Node := ⟨[leaf], 0, 1, 1, 1, 1, true, true⟩

theorem edgeText_parse : Dependency.parse (String.ofList edgeText) = .ok edge := by cbv

theorem vertexText_parse : Node.parse (String.ofList vertexText) = .ok vertex := by cbv

theorem sheetText_parse : ResultPage.parse (String.ofList sheetText) = .ok sheet := by cbv

theorem noteText_parse : GraphInfo.parse (String.ofList noteText) = .ok ⟨"i"⟩ := by cbv

theorem edge_withoutFloats : edge.WithoutFloats :=
  .intro (List.forall_mem_nil _) (List.forall_mem_nil _)

theorem vertex_withoutFloats : vertex.WithoutFloats := by
  have hx : (Value.array [.bool true]).WithoutFloats := .array (List.forall_mem_singleton.mpr .bool)
  have hy : (Value.number (.int 2)).WithoutFloats := .int
  have hproperties : vertex.properties.WithoutFloats :=
    List.forall_mem_cons.mpr ⟨hx, List.forall_mem_singleton.mpr hy⟩
  exact ⟨hproperties, List.forall_mem_singleton.mpr edge_withoutFloats, List.forall_mem_nil _,
    List.forall_mem_nil _, List.forall_mem_nil _⟩

theorem leaf_withoutFloats : leaf.WithoutFloats :=
  ⟨List.forall_mem_nil _, List.forall_mem_nil _, List.forall_mem_nil _, List.forall_mem_nil _,
    List.forall_mem_nil _⟩

theorem reencoding_settles_vertex :
    (openBrackets (String.ofList edgeText) ≤ 126 ∧
      Dependency.parse (String.ofList edgeText) = .ok edge ∧ edge.WithoutFloats ∧
      Settles Dependency.parse Dependency.value (String.ofList edgeText) edge) ∧
    (openBrackets (String.ofList vertexText) ≤ 126 ∧
      Node.parse (String.ofList vertexText) = .ok vertex ∧ vertex.WithoutFloats ∧
      Settles Node.parse Node.value (String.ofList vertexText) vertex) ∧
    (openBrackets (String.ofList sheetText) ≤ 126 ∧
      ResultPage.parse (String.ofList sheetText) = .ok sheet ∧ sheet.WithoutFloats ∧
      Settles ResultPage.parse (ResultPage.value Node.value) (String.ofList sheetText) sheet) ∧
    (openBrackets (String.ofList noteText) ≤ 126 ∧
      GraphInfo.parse (String.ofList noteText) = .ok ⟨"i"⟩ ∧
      Settles GraphInfo.parse GraphInfo.value (String.ofList noteText) ⟨"i"⟩) := by
  have hedge : openBrackets (String.ofList edgeText) ≤ 126 := by cbv
  have hvertex : openBrackets (String.ofList vertexText) ≤ 126 := by cbv
  have hsheet : openBrackets (String.ofList sheetText) ≤ 126 := by cbv
  have hnote : openBrackets (String.ofList noteText) ≤ 126 := by decide
  have hleaf : sheet.WithoutFloats := List.forall_mem_singleton.mpr leaf_withoutFloats
  exact ⟨⟨hedge, edgeText_parse, edge_withoutFloats,
      (reencoding_settles.1 _ hedge).1 edge edgeText_parse edge_withoutFloats⟩,
    ⟨hvertex, vertexText_parse, vertex_withoutFloats,
      (reencoding_settles.1 _ hvertex).2.1 vertex vertexText_parse vertex_withoutFloats⟩,
    ⟨hsheet, sheetText_parse, hleaf,
      (reencoding_settles.1 _ hsheet).2.2.1 sheet sheetText_parse hleaf⟩,
    ⟨hnote, noteText_parse, (reencoding_settles.1 _ hnote).2.2.2 ⟨"i"⟩ noteText_parse⟩⟩

end GraphBrowser
