import GraphBrowser.Graph.Wire
import GraphBrowser.Proofs.Graph.Layout
import GraphBrowser.Proofs.Json.Accepted.Record

namespace GraphBrowser

open Json

theorem mem_insertEntry {key : String} {value : Value} {entries : List (String × Value)}
    {m : String × Value} (h : m ∈ insertEntry key value entries) : m = (key, value) ∨ m ∈ entries := by
  fun_induction insertEntry key value entries with
  | case1 => exact .inl (List.mem_singleton.mp h)
  | case2 v entries => exact (List.mem_cons.mp h).imp_right (List.mem_cons_of_mem _)
  | case3 k v entries _ ih =>
    rcases List.mem_cons.mp h with rfl | h
    · exact .inr List.mem_cons_self
    · exact (ih h).imp_right (List.mem_cons_of_mem _)

namespace Properties

theorem mem_of_mem_ofList {ms : List (String × Value)} {m : String × Value}
    (h : m ∈ (ofList ms).entries) : m ∈ ms := by
  induction ms using List.reverseRecOn with
  | nil => exact h
  | append_singleton ms m' ih =>
    rw [ofList_append] at h
    rcases mem_insertEntry h with rfl | h
    · exact List.mem_append_right ms (List.mem_singleton_self _)
    · exact List.mem_append_left _ (ih h)

def WithoutFloats (p : Properties) : Prop := ∀ m ∈ p.entries, m.2.WithoutFloats

abbrev Fits : Nat → Properties → Prop :=
  Json.Fits value WithoutFloats fun p => ExactMembers p.entries

theorem fits {p : Properties} {d : Nat} (h : ∀ m ∈ p.entries, m.2.Fits d) : p.Fits (d + 1) where
  nesting_le := Nat.succ_le_succ (membersNesting_le fun m hm => (h m hm).nesting_le)
  exact hf := exactMembers fun m hm => (h m hm).exact (hf m hm)

theorem fits_empty (d : Nat) : empty.Fits (d + 1) := fits fun _ hm => absurd hm List.not_mem_nil

theorem fits_ofList {ms : List (String × Value)} {d : Nat} (h : ∀ m ∈ ms, m.2.Fits d) :
    (ofList ms).Fits (d + 1) :=
  fits fun m hm => h m (mem_of_mem_ofList hm)

theorem yields (levels : Nat) : Yields 0 Fits (reader levels) := by
  cases levels with
  | zero => exact (yields_map_none fun d ms => (ofList ms).Fits d).mapped fun _ _ h => h
  | succ levels =>
    apply (yields_map (yields_value levels)).mapped
    rintro _ ms ⟨d, rfl, hms⟩
    exact fits_ofList hms

end Properties

namespace Dependency

inductive WithoutFloats : Dependency → Prop
  | intro {d : Dependency} : d.properties.WithoutFloats → (∀ base ∈ d.bases, base.WithoutFloats) →
    WithoutFloats d

abbrev Fits : Nat → Dependency → Prop := Json.Fits value WithoutFloats Exact

abbrev FitsAll : Nat → List Dependency → Prop := Json.FitsAll value WithoutFloats Exact

theorem exactAll {ds : List Dependency} (h : ∀ d ∈ ds, d.Exact) : ExactAll ds := by
  induction ds with
  | nil => trivial
  | cons d ds ih =>
    rw [List.forall_mem_cons] at h
    exact ⟨h.1, ih h.2⟩

structure Draft.Fits (d : Nat) (draft : Draft) : Prop where
  properties : (draft.properties.getD .empty).Fits d
  bases : FitsAll d (draft.bases.getD [])

theorem fits_finish {e : Nat} {draft : Draft} {x : Dependency} (hfinish : draft.finish = .ok x)
    (h : draft.Fits e) : x.Fits (e + 1) := by
  obtain ⟨source, -, hfinish⟩ := bind_eq_ok.mp hfinish
  obtain ⟨target, -, hfinish⟩ := bind_eq_ok.mp hfinish
  obtain ⟨type, -, hfinish⟩ := bind_eq_ok.mp hfinish
  cases hfinish
  constructor
  · apply Nat.succ_le_succ
    apply membersNesting_le
    simp only [List.forall_mem_cons, List.not_mem_nil, false_implies, implies_true, and_true,
      values_eq_map]
    exact ⟨Nat.zero_le e, Nat.zero_le e, Nat.zero_le e, h.properties.nesting_le, h.bases.nesting_le⟩
  · rintro ⟨hproperties, hbases⟩
    exact ⟨h.properties.exact hproperties, exactAll (h.bases.exact hbases)⟩

theorem shapeYields (levels : Nat) {base : Option (Reader Dependency)}
    (h : Yields 0 (fun d => FitsAll (d + 1)) (listReader base)) :
    ShapeYields (fun d => Draft.Fits (d + 1)) (fun d => Fits (d + 2)) (shape levels base) where
  start d := ⟨Properties.fits_empty d, fitsAll_nil d⟩
  fields := by
    simp only [shape, List.forall_mem_cons, List.not_mem_nil, false_implies, implies_true, and_true]
    exact ⟨fieldYields_of yields_string fun _ _ _ _ hd => ⟨hd.properties, hd.bases⟩,
      fieldYields_of yields_string fun _ _ _ _ hd => ⟨hd.properties, hd.bases⟩,
      fieldYields_of yields_string fun _ _ _ _ hd => ⟨hd.properties, hd.bases⟩,
      fieldYields_of (Properties.yields levels) fun _ _ _ hp hd => ⟨hp.mono, hd.bases⟩,
      fieldYields_of h fun _ _ _ hbs hd => ⟨hd.properties, hbs⟩⟩
  finish _ _ _ := fits_finish

/-- Whatever is read as a dependency is written with at most one bracket more. -/
theorem yields : ∀ levels, Yields 0 (fun d => Fits (d + 1)) (reader levels)
  | 0 => yields_record_none _ _
  | 1 => yields_fits_record _ (shapeYields 0 (yields_list_none _))
  | levels + 2 => yields_fits_record _ (shapeYields (levels + 1) (yields_fitsAll (yields levels)))

theorem yields_all : ∀ levels, Yields 0 (fun d => FitsAll (d + 1)) (listReader (match levels with
    | 0 => none
    | levels + 1 => some (reader levels))) := by
  intro levels
  cases levels with
  | zero => exact yields_list_none _
  | succ levels => exact yields_fitsAll (yields levels)

end Dependency

namespace Node

structure WithoutFloats (n : Node) : Prop where
  properties : n.properties.WithoutFloats
  parents : ∀ d ∈ n.parents, d.WithoutFloats
  incoming : ∀ d ∈ n.incoming, d.WithoutFloats
  outgoing : ∀ d ∈ n.outgoing, d.WithoutFloats
  contained : ∀ d ∈ n.contained, d.WithoutFloats

abbrev Fits : Nat → Node → Prop := Json.Fits value WithoutFloats Exact

structure Draft.Fits (d : Nat) (draft : Draft) : Prop where
  properties : (draft.properties.getD .empty).Fits d
  parents : Dependency.FitsAll d (draft.parents.getD [])
  incoming : Dependency.FitsAll d (draft.incoming.getD [])
  outgoing : Dependency.FitsAll d (draft.outgoing.getD [])
  contained : Dependency.FitsAll d (draft.contained.getD [])

theorem fits_finish {e : Nat} {draft : Draft} {x : Node} (hfinish : draft.finish = .ok x)
    (h : draft.Fits e) : x.Fits (e + 1) := by
  obtain ⟨name, -, hfinish⟩ := bind_eq_ok.mp hfinish
  cases hfinish
  constructor
  · apply Nat.succ_le_succ
    apply membersNesting_le
    simp only [List.forall_mem_cons, List.not_mem_nil, false_implies, implies_true, and_true]
    exact ⟨Nat.zero_le e, h.properties.nesting_le, h.parents.nesting_le, h.incoming.nesting_le,
      h.outgoing.nesting_le, h.contained.nesting_le⟩
  · intro hf
    exact ⟨h.properties.exact hf.properties,
      Dependency.exactAll (h.parents.exact hf.parents),
      Dependency.exactAll (h.incoming.exact hf.incoming),
      Dependency.exactAll (h.outgoing.exact hf.outgoing),
      Dependency.exactAll (h.contained.exact hf.contained)⟩

theorem shapeYields (levels : Nat) :
    ShapeYields (fun d => Draft.Fits (d + 1)) (fun d => Fits (d + 2)) (shape levels) where
  start d := ⟨Properties.fits_empty d, fitsAll_nil d, fitsAll_nil d, fitsAll_nil d, fitsAll_nil d⟩
  fields := by
    have hall := Dependency.yields_all levels
    simp only [shape, List.forall_mem_cons, List.not_mem_nil, false_implies, implies_true, and_true]
    exact ⟨fieldYields_of yields_string fun _ _ _ _ hd =>
        ⟨hd.properties, hd.parents, hd.incoming, hd.outgoing, hd.contained⟩,
      fieldYields_of (Properties.yields levels) fun _ _ _ hp hd =>
        ⟨hp.mono, hd.parents, hd.incoming, hd.outgoing, hd.contained⟩,
      fieldYields_of hall fun _ _ _ hds hd =>
        ⟨hd.properties, hds, hd.incoming, hd.outgoing, hd.contained⟩,
      fieldYields_of hall fun _ _ _ hds hd =>
        ⟨hd.properties, hd.parents, hds, hd.outgoing, hd.contained⟩,
      fieldYields_of hall fun _ _ _ hds hd =>
        ⟨hd.properties, hd.parents, hd.incoming, hds, hd.contained⟩,
      fieldYields_of hall fun _ _ _ hds hd =>
        ⟨hd.properties, hd.parents, hd.incoming, hd.outgoing, hds⟩⟩
  finish _ _ _ := fits_finish

theorem yields (levels : Nat) : Yields 0 (fun d => Fits (d + 1)) (reader levels) := by
  cases levels with
  | zero => exact yields_record_none _ _
  | succ levels => exact yields_fits_record _ (shapeYields levels)

end Node

namespace GraphInfo

abbrev Fits : Nat → GraphInfo → Prop := Json.Fits value (fun _ => True) (fun _ => True)

theorem yields : Yields 0 (fun d => Fits (d + 1)) reader :=
  yields_fits_record (P := fun _ _ => True) _ {
    start := fun _ => trivial
    fields := by
      simp only [shape, List.forall_mem_cons, List.not_mem_nil, false_implies, implies_true, and_true]
      exact fieldYields_of yields_string fun _ _ _ _ _ => trivial
    finish := fun d _ _ _ _ => ⟨Nat.succ_le_succ (Nat.zero_le (d + 1)), fun _ => trivial⟩ }

end GraphInfo

end GraphBrowser
