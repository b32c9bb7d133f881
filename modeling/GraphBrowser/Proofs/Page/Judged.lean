import GraphBrowser.Page.Wire
import GraphBrowser.Proofs.Json.Compact
import GraphBrowser.Proofs.Json.Judged

namespace GraphBrowser

open Json

theorem Properties.local_reader (depth : Nat) : Local (reader depth) := by
  cases depth with
  | zero => exact local_map_none.mapped ofList
  | succ depth => exact (local_map (local_value depth)).mapped ofList

namespace Dependency

theorem shape_local (depth : Nat) {base : Option (Reader Dependency)} (h : Local (listReader base)) :
    ∀ field ∈ (shape depth base).fields, ∀ draft, Local (field.read draft) := by
  simp only [shape, List.forall_mem_cons]
  exact ⟨local_field local_string, local_field local_string, local_field local_string,
    local_field (Properties.local_reader depth), local_field h, List.forall_mem_nil _⟩

theorem local_reader : ∀ depth, Local (reader depth)
  | 0 => local_record_none _
  | 1 => local_record _ (shape_local 0 local_list_none)
  | depth + 2 => local_record _ (shape_local (depth + 1) (local_list (local_reader depth)))

theorem shape_tracks (depth : Nat) {base : Option (Reader Dependency)} (h : Local (listReader base)) :
    ShapeTracks (shape depth base) where
  nodup := by simp [shape, Field.of]
  start := by simp [shape, Field.of]
  marks := by
    simp only [shape, List.forall_mem_cons]
    refine ⟨marks_of ?_, marks_of ?_, marks_of ?_, marks_of ?_, marks_of ?_, List.forall_mem_nil _⟩ <;>
      simp [Field.of]
  reads := shape_local depth h
  finish := by
    rintro ⟨source, target, type, _, _⟩
    rcases source with _ | source
    · exact .inl ⟨_, rfl, rfl⟩
    rcases target with _ | target
    · exact .inl ⟨_, rfl, rfl⟩
    rcases type with _ | type
    · exact .inl ⟨_, rfl, rfl⟩
    exact .inr ⟨rfl, _, rfl⟩

end Dependency

namespace Node

theorem local_dependencies : ∀ depth, Local (listReader (match depth with
    | 0 => none
    | depth + 1 => some (Dependency.reader depth))) := by
  intro depth
  cases depth with
  | zero => exact local_list_none
  | succ depth => exact local_list (Dependency.local_reader depth)

theorem shape_local (depth : Nat) :
    ∀ field ∈ (shape depth).fields, ∀ draft, Local (field.read draft) := by
  have hlist := local_dependencies depth
  simp only [shape, List.forall_mem_cons]
  exact ⟨local_field local_string, local_field (Properties.local_reader depth), local_field hlist,
    local_field hlist, local_field hlist, local_field hlist, List.forall_mem_nil _⟩

theorem local_reader (depth : Nat) : Local (reader depth) := by
  cases depth with
  | zero => exact local_record_none _
  | succ depth => exact local_record _ (shape_local depth)

theorem shape_tracks (depth : Nat) : ShapeTracks (shape depth) where
  nodup := by simp [shape, Field.of]
  start := by simp [shape, Field.of]
  marks := by
    simp only [shape, List.forall_mem_cons]
    refine ⟨marks_of ?_, marks_of ?_, marks_of ?_, marks_of ?_, marks_of ?_, marks_of ?_,
      List.forall_mem_nil _⟩ <;> simp [Field.of]
  reads := shape_local depth
  finish := by
    rintro ⟨name, _, _, _, _, _⟩
    rcases name with _ | name
    · exact .inl ⟨_, rfl, rfl⟩
    exact .inr ⟨rfl, _, rfl⟩

end Node

namespace ResultPage

variable {α : Type}

theorem shape_tracks {item : Option (Reader α)} (h : Local (listReader item)) :
    ShapeTracks (shape item) where
  nodup := by simp [shape, Field.of]
  start := by simp [shape, Field.of]
  marks := by
    simp only [shape, List.forall_mem_cons]
    refine ⟨marks_of ?_, marks_of ?_, marks_of ?_, marks_of ?_, marks_of ?_, marks_of ?_,
      marks_of ?_, marks_of ?_, List.forall_mem_nil _⟩ <;> simp [Field.of]
  reads := by
    simp only [shape, List.forall_mem_cons]
    exact ⟨local_field h, local_field local_word32, local_field local_word32, local_field local_word64,
      local_field local_word32, local_field local_word32, local_field local_bool,
      local_field local_bool, List.forall_mem_nil _⟩
  finish := by
    rintro ⟨_, number, size, elements, pages, count, first, last⟩
    rcases number with _ | number
    · exact .inl ⟨_, rfl, rfl⟩
    rcases size with _ | size
    · exact .inl ⟨_, rfl, rfl⟩
    rcases elements with _ | elements
    · exact .inl ⟨_, rfl, rfl⟩
    rcases pages with _ | pages
    · exact .inl ⟨_, rfl, rfl⟩
    rcases count with _ | count
    · exact .inl ⟨_, rfl, rfl⟩
    rcases first with _ | first
    · exact .inl ⟨_, rfl, rfl⟩
    rcases last with _ | last
    · exact .inl ⟨_, rfl, rfl⟩
    exact .inr ⟨rfl, _, rfl⟩

end ResultPage

theorem GraphInfo.shape_tracks : ShapeTracks shape where
  nodup := by simp [shape, Field.of]
  start := by simp [shape, Field.of]
  marks := by
    simp only [shape, List.forall_mem_cons]
    exact ⟨marks_of (by simp [Field.of]), List.forall_mem_nil _⟩
  reads := by
    simp only [shape, List.forall_mem_cons]
    exact ⟨local_field local_string, List.forall_mem_nil _⟩
  finish := by
    rintro ⟨info⟩
    rcases info with _ | info
    · exact .inl ⟨_, rfl, rfl⟩
    exact .inr ⟨rfl, _, rfl⟩

/-- If the values of the known members can be read, the known keys of an object decide whether it is a
node, a dependency, a page of nodes or graph information. -/
theorem known_keys_decide (keys : List String) (s : String) :
    ((Node.shape (maxDepth - 1)).ObjectText keys s → Judged ["name"] keys (Node.parse s)) ∧
    ((Dependency.shape (maxDepth - 1) (some (Dependency.reader (maxDepth - 2)))).ObjectText keys s →
      Judged ["sourceName", "targetName", "typeName"] keys (Dependency.parse s)) ∧
    ((ResultPage.shape (some (Node.reader (maxDepth - 2)))).ObjectText keys s →
      Judged ["number", "size", "totalElements", "totalPages", "numberOfElements", "first", "last"]
        keys (ResultPage.parse s)) ∧
    (GraphInfo.shape.ObjectText keys s → Judged ["info"] keys (GraphInfo.parse s)) := by
  have hbase := local_list (Dependency.local_reader (maxDepth - 2))
  have hitem := local_list (Node.local_reader (maxDepth - 2))
  exact ⟨judged_text "Node" (Node.shape_tracks _) rfl,
    judged_text "Dependency" (Dependency.shape_tracks _ hbase) rfl,
    judged_text "ResultPage" (ResultPage.shape_tracks hitem) rfl,
    judged_text "GraphInfo" GraphInfo.shape_tracks rfl⟩

theorem compact_stringField {σ : Type} (key : String) (required : Bool) (get : σ → Option String)
    (set : σ → String → σ) (draft : σ) (s : String) :
    CompactMember (.member key (Field.of key required get set stringReader).value) (key, .string s) := by
  have hread : readText stringReader (Value.string s).text = .ok s :=
    readText_ok (reads_string 0 s) (Nat.le_refl 0) (compact_string s).text
  exact ⟨_, rfl, (has_value_iff draft).mpr ⟨begins_cons (by decide) (by decide) (by decide) _, s, hread⟩⟩

theorem known_keys_decide_samples :
    Node.parse (Value.object [("name", .string "a"), ("age", .null), ("name", .string "b")]).text =
      .error (.duplicateField "name") ∧
    Dependency.parse (Value.object [("typeName", .string "t"), ("targetName", .string "b")]).text =
      .error (.missingField "sourceName") ∧
    ∃ g, GraphInfo.parse (Value.object [("info", .string "i")]).text = .ok g := by
  refine ⟨?_, ?_, ?_⟩
  · have hname := compact_stringField "name" true (·.name)
      (fun (d : Node.Draft) x => { d with name := some x }) {}
    have hnull : CompactMember (.member "age" .foreign) ("age", .null) := ⟨_, rfl, rfl, .null⟩
    have hage : "age" ∉ (Node.shape (maxDepth - 1)).fields.map Field.key := by decide
    have hfields : Holds (Node.shape (maxDepth - 1)).fields ["name", "name"] _ :=
      .known (.head _) (.unknown hage (.known (.head _) .done))
    have htext := compact_object (.cons (hname "a") (.cons hnull (.cons (hname "b") .nil)))
    obtain ⟨key, hkey, hparse⟩ :=
      ((known_keys_decide _ _).1 ⟨_, _, hfields, htext.text⟩).duplicate (by decide)
    have hrepeated : FirstRepeated (["name"] ++ "name" :: []) key := hkey
    rw [hparse, firstRepeated_cons (by decide) (by decide) hrepeated]
  · have htype := compact_stringField "typeName" true (·.type)
      (fun (d : Dependency.Draft) x => { d with type := some x }) {}
    have htarget := compact_stringField "targetName" true (·.target)
      (fun (d : Dependency.Draft) x => { d with target := some x }) {}
    have hfields : Holds (Dependency.shape (maxDepth - 1)
        (some (Dependency.reader (maxDepth - 2)))).fields ["typeName", "targetName"] _ :=
      .known (.tail _ (.tail _ (.head _))) (.known (.tail _ (.head _)) .done)
    have htext := compact_object (.cons (htype "t") (.cons (htarget "b") .nil))
    obtain ⟨key, hkey, hparse⟩ :=
      ((known_keys_decide _ _).2.1 ⟨_, _, hfields, htext.text⟩).missing (by decide) (by decide)
    rw [hparse, firstMissing_cons (by decide) hkey]
  · have hinfo := compact_stringField "info" true (·.info)
      (fun (_ : GraphInfo.Draft) x => ⟨some x⟩) {}
    have hfields : Holds GraphInfo.shape.fields ["info"] _ := .known (.head _) .done
    have htext := compact_object (.cons (hinfo "i") .nil)
    exact ((known_keys_decide _ _).2.2.2 ⟨_, _, hfields, htext.text⟩).complete (by decide) (by decide)

end GraphBrowser
