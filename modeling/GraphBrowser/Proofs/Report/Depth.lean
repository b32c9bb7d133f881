import GraphBrowser.Proofs.Graph.Walk
import GraphBrowser.Proofs.Report.Section

namespace GraphBrowser

namespace Dependency

variable (d : Dependency)

end Dependency

namespace Report

/-- Two lists put together, each in its own order. -/
inductive Merged : List α → List α → List α → Prop
  | nil : Merged [] [] []
  | left {x : α} {xs ys zs : List α} : Merged xs ys zs → Merged (x :: xs) ys (x :: zs)
  | right {y : α} {xs ys zs : List α} : Merged xs ys zs → Merged xs (y :: ys) (y :: zs)

namespace Merged

variable {xs xs' ys ys' zs zs' : List α}

theorem append (h : Merged xs ys zs) (h' : Merged xs' ys' zs') :
    Merged (xs ++ xs') (ys ++ ys') (zs ++ zs') := by
  induction h with
  | nil => exact h'
  | left _ ih => exact .left ih
  | right _ ih => exact .right ih

theorem map (f : α → β) (h : Merged xs ys zs) : Merged (xs.map f) (ys.map f) (zs.map f) := by
  induction h with
  | nil => exact .nil
  | left _ ih => exact .left ih
  | right _ ih => exact .right ih

theorem sublist (h : Merged xs ys zs) : xs.Sublist zs := by
  induction h with
  | nil => exact .slnil
  | left _ ih => exact .cons_cons _ ih
  | right _ ih => exact .cons _ ih

theorem filter (p : α → Bool) (xs : List α) : Merged (xs.filter p) (xs.filter fun x => !p x) xs := by
  induction xs with
  | nil => exact .nil
  | cons x xs ih =>
    cases h : p x with
    | true =>
      rw [List.filter_cons_of_pos h, List.filter_cons_of_neg (by simp [h])]
      exact .left ih
    | false =>
      rw [List.filter_cons_of_neg (by simp [h]), List.filter_cons_of_pos (by simp [h])]
      exact .right ih

end Merged

end Report

end GraphBrowser
