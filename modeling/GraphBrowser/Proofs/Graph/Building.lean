import GraphBrowser.Graph.Basic
import GraphBrowser.Proofs.Graph.Properties

namespace GraphBrowser.Node

open Json

inductive Step where
  | property (key : String) (value : Value)
  | relation (r : Relation) (d : Dependency)

def Step.apply (n : Node) : Step → Node
  | .property key value => n.withProperty key value
  | .relation r d => n.withRelation r d

def assembled (name : String) (steps : List Step) : Node := steps.foldl Step.apply { name := name }

def Step.entry? : Step → Option (String × Value)
  | .property key value => some (key, value)
  | .relation _ _ => none

def Step.added? (r : Relation) : Step → Option Dependency
  | .property _ _ => none
  | .relation r' d => if r' = r then some d else none

def entriesOf (steps : List Step) : List (String × Value) := steps.filterMap Step.entry?

def addedOf (r : Relation) (steps : List Step) : List Dependency := steps.filterMap (Step.added? r)

theorem entriesOf_append (steps : List Step) (step : Step) :
    entriesOf (steps ++ [step]) = entriesOf steps ++ step.entry?.toList := by
  rw [entriesOf, List.filterMap_append]
  cases h : step.entry? <;> simp [entriesOf, h]

theorem addedOf_append (r : Relation) (steps : List Step) (step : Step) :
    addedOf r (steps ++ [step]) = addedOf r steps ++ (step.added? r).toList := by
  rw [addedOf, List.filterMap_append]
  cases h : step.added? r <;> simp [addedOf, h]

theorem eq_of_parts {n m : Node} (hname : n.name = m.name) (hproperties : n.properties = m.properties)
    (hrelated : ∀ r, n.related r = m.related r) : n = m := by
  cases n
  cases m
  obtain rfl := hname
  obtain rfl := hproperties
  obtain rfl := hrelated .parent
  obtain rfl := hrelated .incoming
  obtain rfl := hrelated .outgoing
  obtain rfl := hrelated .contained
  rfl

variable (n : Node) (step : Step)

theorem name_apply : (step.apply n).name = n.name := by
  cases step with
  | property key value => rfl
  | relation r d => cases r <;> rfl

theorem related_apply (r : Relation) :
    (step.apply n).related r = n.related r ++ (step.added? r).toList := by
  cases step with
  | property key value => cases r <;> exact (List.append_nil _).symm
  | relation r' d =>
    by_cases h : r' = r
    · subst h
      cases r' <;> rfl
    · simp only [Step.added?, h, if_false, Option.toList_none, List.append_nil]
      cases r' <;> cases r <;> first | rfl | exact absurd rfl h

theorem properties_apply : (step.apply n).properties =
    step.entry?.elim n.properties fun entry => n.properties.insert entry.1 entry.2 := by
  cases step with
  | property key value => rfl
  | relation r d => cases r <;> rfl

variable {n step} (name : String) (steps : List Step)

theorem assembled_append (step : Step) :
    assembled name (steps ++ [step]) = step.apply (assembled name steps) := by
  rw [assembled, List.foldl_append]
  rfl

theorem name_assembled : (assembled name steps).name = name := by
  induction steps using List.reverseRecOn with
  | nil => rfl
  | append_singleton steps step ih => rw [assembled_append, name_apply, ih]

theorem related_assembled (r : Relation) : (assembled name steps).related r = addedOf r steps := by
  induction steps using List.reverseRecOn with
  | nil => cases r <;> rfl
  | append_singleton steps step ih =>
    rw [assembled_append, related_apply, ih, addedOf_append]

theorem properties_assembled : (assembled name steps).properties = .ofList (entriesOf steps) := by
  induction steps using List.reverseRecOn with
  | nil => rfl
  | append_singleton steps step ih =>
    rw [assembled_append, properties_apply, ih, entriesOf_append]
    cases step.entry? with
    | none =>
      rw [Option.toList_none, List.append_nil]
      rfl
    | some entry =>
      obtain ⟨key, value⟩ := entry
      exact (Properties.ofList_append _ key value).symm

/-- How the steps of different parts alternate does not matter. -/
theorem assembled_congr {steps steps' : List Step} (hentries : entriesOf steps = entriesOf steps')
    (hadded : ∀ r, addedOf r steps = addedOf r steps') :
    assembled name steps = assembled name steps' := by
  apply eq_of_parts
  · rw [name_assembled, name_assembled]
  · rw [properties_assembled, properties_assembled, hentries]
  · intro r
    rw [related_assembled, related_assembled, hadded r]

theorem violations_eq (n : Node) : n.violations =
    ((n.parents.filter fun d => d.target ≠ n.name).map fun d => (.parent, d)) ++
    ((n.incoming.filter fun d => d.target ≠ n.name).map fun d => (.incoming, d)) ++
    ((n.outgoing.filter fun d => d.source ≠ n.name).map fun d => (.outgoing, d)) ++
    ((n.contained.filter fun d => d.source ≠ n.name).map fun d => (.contained, d)) := by
  simp only [violations, Relation.all, List.flatMap_cons, List.flatMap_nil, List.append_nil,
    List.append_assoc]
  rfl

end GraphBrowser.Node
