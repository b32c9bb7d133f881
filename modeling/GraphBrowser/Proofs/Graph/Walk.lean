import GraphBrowser.Graph.Basic
import Mathlib.Data.List.Nodup

namespace GraphBrowser.Dependency

/-- The dependency at a place, which is the way down to it: the index of one base after the other. -/
def at? (d : Dependency) : List Nat → Option Dependency
  | [] => some d
  | i :: place => d.bases[i]?.bind fun b => b.at? place

mutual

/-- All dependencies below one with their places, each before those below it. -/
def walk : Dependency → List (List Nat × Dependency)
  | ⟨_, _, _, _, bases⟩ => walkFrom 0 bases

def walkFrom (i : Nat) : List Dependency → List (List Nat × Dependency)
  | [] => []
  | b :: bs => ([i], b) :: (b.walk.map fun (place, d) => (i :: place, d)) ++ walkFrom (i + 1) bs

end

def descendants (d : Dependency) : List (Nat × Dependency) :=
  d.walk.map fun (place, b) => (place.length, b)

theorem walk_eq (d : Dependency) : d.walk = walkFrom 0 d.bases := by
  cases d
  rfl

mutual

theorem mem_walk : (d : Dependency) → ∀ place b,
    (place, b) ∈ d.walk ↔ place ≠ [] ∧ d.at? place = some b
  | ⟨_, _, _, _, bases⟩, place, b => by
    rw [walk, mem_walkFrom bases]
    cases place with
    | nil => simp
    | cons i place => simp [at?]

theorem mem_walkFrom : (ds : List Dependency) → ∀ i place b, (place, b) ∈ walkFrom i ds ↔
    ∃ j rest, place = (i + j) :: rest ∧ (ds[j]?.bind fun d => d.at? rest) = some b
  | [], i, place, b => by simp [walkFrom]
  | d :: ds, i, place, b => by
    rw [walkFrom, List.cons_append, List.mem_cons, List.mem_append, mem_walkFrom ds (i + 1)]
    constructor
    · rintro (hfirst | hbelow | ⟨j, rest, rfl, hrest⟩)
      · cases hfirst
        exact ⟨0, [], rfl, rfl⟩
      · obtain ⟨⟨rest, b'⟩, hrest, he⟩ := List.mem_map.mp hbelow
        cases he
        exact ⟨0, rest, rfl, ((mem_walk d rest b).mp hrest).2⟩
      · exact ⟨j + 1, rest, by rw [Nat.add_right_comm, Nat.add_assoc], hrest⟩
    · rintro ⟨j, rest, rfl, hrest⟩
      cases j with
      | zero =>
        cases rest with
        | nil =>
          cases hrest
          exact .inl rfl
        | cons k rest =>
          have hwalk := (mem_walk d (k :: rest) b).mpr ⟨List.cons_ne_nil k rest, hrest⟩
          exact .inr (.inl (List.mem_map.mpr ⟨_, hwalk, rfl⟩))
      | succ j =>
        exact .inr (.inr ⟨j, rest, by rw [Nat.add_right_comm, Nat.add_assoc], hrest⟩)

end

theorem places_walkFrom_cons (i : Nat) (d : Dependency) (ds : List Dependency) :
    (walkFrom i (d :: ds)).map Prod.fst =
      [i] :: ((d.walk.map Prod.fst).map (i :: ·) ++ (walkFrom (i + 1) ds).map Prod.fst) := by
  simp [walkFrom, Function.comp_def]

theorem head_walkFrom {ds : List Dependency} {i : Nat} {place : List Nat}
    (h : place ∈ (walkFrom i ds).map Prod.fst) : ∃ j rest, place = j :: rest ∧ i ≤ j := by
  obtain ⟨⟨place, b⟩, hmem, rfl⟩ := List.mem_map.mp h
  obtain ⟨j, rest, rfl, -⟩ := (mem_walkFrom ds i place b).mp hmem
  exact ⟨i + j, rest, rfl, Nat.le_add_right i j⟩

theorem place_ne_nil {d : Dependency} {place : List Nat} (h : place ∈ d.walk.map Prod.fst) :
    place ≠ [] := by
  obtain ⟨⟨place, b⟩, hmem, rfl⟩ := List.mem_map.mp h
  exact ((mem_walk d place b).mp hmem).1

mutual

theorem ascending_walk : (d : Dependency) → (d.walk.map Prod.fst).Pairwise (· < ·)
  | ⟨_, _, _, _, bases⟩ => ascending_walkFrom bases 0

theorem ascending_walkFrom : (ds : List Dependency) → ∀ i,
    ((walkFrom i ds).map Prod.fst).Pairwise (· < ·)
  | [], _ => .nil
  | d :: ds, i => by
    have hlater {place : List Nat} (h : place ∈ (walkFrom (i + 1) ds).map Prod.fst)
        (rest : List Nat) : i :: rest < place := by
      obtain ⟨j, rest', rfl, hj⟩ := head_walkFrom h
      exact List.cons_lt_cons_iff.mpr (.inl hj)
    -- All below the first base keep its index, and all behind have a later one.
    rw [places_walkFrom_cons, List.pairwise_cons, List.pairwise_append, List.pairwise_map]
    refine ⟨fun place h => ?_, (ascending_walk d).imp fun h => ?_, ascending_walkFrom ds (i + 1),
      fun place h place' h' => ?_⟩
    · rcases List.mem_append.mp h with h | h
      · obtain ⟨rest, hrest, rfl⟩ := List.mem_map.mp h
        obtain ⟨k, rest, rfl⟩ := List.exists_cons_of_ne_nil (place_ne_nil hrest)
        exact List.cons_lt_cons_iff.mpr (.inr ⟨rfl, List.nil_lt_cons k rest⟩)
      · exact hlater h []
    · exact List.cons_lt_cons_iff.mpr (.inr ⟨rfl, h⟩)
    · obtain ⟨rest, -, rfl⟩ := List.mem_map.mp h
      exact hlater h' rest

end

def notBelow (levels : Nat) (e : List Nat × Dependency) : Bool := e.1.length ≤ levels

theorem notBelow_cons (levels i : Nat) (e : List Nat × Dependency) :
    notBelow (levels + 1) (i :: e.1, e.2) = notBelow levels e := by
  simp [notBelow]

/-- Below a base everything is one level deeper than it is below its own start. -/
theorem filter_below (level levels i : Nat) (d : Dependency) :
    ((d.walk.map fun e => (i :: e.1, e.2)).filter (notBelow (levels + 1))).map
        (fun e => (level + e.1.length, e.2)) =
      (d.walk.filter (notBelow levels)).map fun e => (level + 1 + e.1.length, e.2) := by
  have hlevel (e : List Nat × Dependency) :
      level + (i :: e.1).length = level + 1 + e.1.length := by
    rw [List.length_cons, Nat.add_assoc, Nat.add_comm 1]
  simp only [List.filter_map, List.map_map, Function.comp_def, notBelow_cons, hlevel]

theorem filter_walkFrom (level levels i : Nat) (ds : List Dependency) :
    ((walkFrom i ds).filter (notBelow (levels + 1))).map (fun e => (level + e.1.length, e.2)) =
      ds.flatMap fun b => (level + 1, b) ::
        (b.walk.filter (notBelow levels)).map fun e => (level + 1 + e.1.length, e.2) := by
  induction ds generalizing i with
  | nil => rfl
  | cons d ds ih =>
    have hfirst : notBelow (levels + 1) ([i], d) = true := by simp [notBelow]
    rw [walkFrom, List.filter_append, List.filter_cons_of_pos hfirst, List.map_append,
      List.map_cons, filter_below, ih, List.flatMap_cons]
    rfl

/-- Going down level by level and stopping in time gives the walk without what lies too deep. -/
theorem basesWithin_eq (d : Dependency) (level levels : Nat) :
    d.basesWithin (level + 1) levels =
      (d.walk.filter (notBelow levels)).map fun e => (level + e.1.length, e.2) := by
  -- The induction is on the levels that are left, as in the recursion, and not on the tree.
  induction levels generalizing d level with
  | zero =>
    have hnone : d.walk.filter (notBelow 0) = [] := by
      rw [List.filter_eq_nil_iff]
      rintro ⟨place, b⟩ he h
      have hlength : place.length ≤ 0 := of_decide_eq_true h
      exact ((mem_walk d place b).mp he).1 (List.length_eq_zero_iff.mp (Nat.le_zero.mp hlength))
    rw [hnone]
    rfl
  | succ levels ih =>
    rw [walk_eq, filter_walkFrom, basesWithin]
    exact List.flatMap_congr fun b _ => congrArg (_ :: ·) (ih b (level + 1))

theorem flatten_eq (d : Dependency) (depth : Nat) :
    d.flatten depth =
      (d.walk.filter (notBelow (min depth 8))).map fun e => (e.1.length, e.2) := by
  have h := d.basesWithin_eq 0 (min depth 8)
  simp only [Nat.zero_add] at h
  exact h

theorem count_place (d : Dependency) (levels : Nat) (place : List Nat) :
    ((d.walk.filter (notBelow levels)).map Prod.fst).count place =
      if place ≠ [] ∧ place.length ≤ levels ∧ (d.at? place).isSome then 1 else 0 := by
  have hsorted : ((d.walk.filter (notBelow levels)).map Prod.fst).Pairwise (· < ·) :=
    d.ascending_walk.sublist ((List.filter_sublist).map Prod.fst)
  have hnodup : ((d.walk.filter (notBelow levels)).map Prod.fst).Nodup := by
    refine hsorted.imp fun hlt => ?_
    rintro rfl
    exact List.lt_irrefl _ hlt
  rw [hnodup.count]
  refine if_congr ?_ rfl rfl
  constructor
  · intro h
    obtain ⟨⟨place, b⟩, hmem, rfl⟩ := List.mem_map.mp h
    obtain ⟨hwalk, hlevels⟩ := List.mem_filter.mp hmem
    obtain ⟨hne, hat⟩ := (mem_walk d place b).mp hwalk
    exact ⟨hne, of_decide_eq_true hlevels, Option.isSome_of_eq_some hat⟩
  · rintro ⟨hne, hlength, hat⟩
    obtain ⟨b, hb⟩ := Option.isSome_iff_exists.mp hat
    have hwalk := (mem_walk d place b).mpr ⟨hne, hb⟩
    exact List.mem_map.mpr ⟨(place, b), List.mem_filter.mpr ⟨hwalk, decide_eq_true hlength⟩, rfl⟩

/-- The flat list holds all dependencies below one, in the order of the walk, without those below
the last level, which is the eighth at most. The walk goes through all places, in the order of a
dictionary: first a dependency, then what is below it, then the next one beside it. -/
theorem flatten_prunes_walk (d : Dependency) (depth : Nat) :
    let limit := min depth 8
    d.flatten depth = d.descendants.filter (fun (level, _) => level ≤ limit) ∧
    (d.walk.map Prod.fst).Pairwise (· < ·) ∧
    (∀ place b, (place, b) ∈ d.walk ↔ place ≠ [] ∧ d.at? place = some b) ∧
    ∃ shown : List (List Nat × Dependency), shown.Sublist d.walk ∧
      d.flatten depth = shown.map (fun (place, b) => (place.length, b)) ∧
      ∀ place, (shown.map Prod.fst).count place =
        if place ≠ [] ∧ place.length ≤ limit ∧ (d.at? place).isSome then 1 else 0 := by
  intro limit
  have hflatten := d.flatten_eq depth
  refine ⟨?_, d.ascending_walk, mem_walk d, d.walk.filter (notBelow limit), List.filter_sublist,
    hflatten, d.count_place limit⟩
  rw [hflatten, descendants, List.filter_map]
  rfl

end GraphBrowser.Dependency
