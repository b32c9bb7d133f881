import GraphBrowser.Proofs.Text.Basic
import GraphBrowser.Report
import Mathlib.Data.List.DropRight

namespace GraphBrowser.Report

/-- The lines of a text. A line feed at its end does not begin another one. -/
def lines (s : String) : List String :=
  let ps := Text.pieces '\n' s.toList
  (if ps.getLast? = some [] then ps.dropLast else ps).map String.ofList

def IsLine (s : String) : Prop := '\n' ∉ s.toList

instance (s : String) : Decidable (IsLine s) := inferInstanceAs (Decidable ('\n' ∉ s.toList))

theorem pieces_unlines {ls : List String} (h : ∀ l ∈ ls, IsLine l) :
    Text.pieces '\n' (unlines ls).toList = ls.map String.toList ++ [[]] := by
  induction ls with
  | nil => rfl
  | cons l ls ih =>
    rw [List.forall_mem_cons] at h
    have htext : (unlines (l :: ls)).toList = l.toList ++ '\n' :: (unlines ls).toList := by
      simp [unlines]
    rw [htext, Text.pieces_append h.1, ih h.2]
    rfl

theorem lines_unlines {ls : List String} (h : ∀ l ∈ ls, IsLine l) : lines (unlines ls) = ls := by
  simp only [lines, pieces_unlines h, List.getLast?_concat, if_true, List.dropLast_concat, List.map_map]
  exact (List.map_congr_left fun l _ => String.ofList_toList).trans (List.map_id ls)

theorem isLine_append {s t : String} : IsLine (s ++ t) ↔ IsLine s ∧ IsLine t := by
  simp [IsLine]

theorem isLine_nat (n : Nat) : IsLine (toString n) := Text.not_mem_toString (by decide) n

theorem isLine_intercalate {s : String} (hs : IsLine s) {ls : List String} (h : ∀ l ∈ ls, IsLine l) :
    IsLine (s.intercalate ls) := by
  rw [IsLine, String.toList_intercalate]
  apply Text.not_mem_intercalate hs
  rw [List.forall_mem_map]
  exact h

theorem isLine_pageLink (p : ResultPage α) (n : UInt32) : IsLine (pageLink p n) := by
  unfold pageLink linkText
  split
  · exact isLine_append.mpr ⟨isLine_append.mpr ⟨by decide, isLine_nat _⟩, by decide⟩
  · exact isLine_nat _

theorem isLine_pagination (p : ResultPage α) : IsLine (pagination p) := by
  have hlinks : IsLine (" ".intercalate (p.window.map (pageLink p))) := by
    refine isLine_intercalate (by decide) ?_
    rw [List.forall_mem_map]
    exact fun n _ => isLine_pageLink p n
  simp only [pagination, barText, isLine_append]
  exact ⟨⟨⟨⟨by decide, hlinks⟩, by decide⟩, isLine_nat _⟩, by decide⟩

theorem lines_listing {p : ResultPage Node} (h : ∀ n ∈ p.content, IsLine n.name) :
    lines (listing p) = listingLines p (pagination p) := by
  refine lines_unlines ?_
  unfold listingLines
  rw [List.forall_mem_append, List.forall_mem_append, List.forall_mem_map]
  refine ⟨⟨?_, h⟩, ?_⟩
  · split
    · exact List.forall_mem_singleton.mpr (by decide)
    · exact nofun
  · rw [List.forall_mem_cons, List.forall_mem_cons, List.forall_mem_singleton]
    refine ⟨by decide, ?_, isLine_pagination p⟩
    simp only [isLine_append]
    exact ⟨⟨⟨isLine_nat _, by decide⟩, isLine_nat _⟩, by decide⟩

def body (s : String) : List String := (lines s).rdrop 3

theorem body_listing {p : ResultPage Node} (h : ∀ n ∈ p.content, IsLine n.name) :
    body (listing p) = if p.content.isEmpty then ["(no nodes)"] else p.content.map (·.name) := by
  have hthree : ∀ (ls : List String) (a b c : String), (ls ++ [a, b, c]).rdrop 3 = ls := fun ls a b c =>
    @List.rdrop_append_length _ ls [a, b, c]
  rw [body, lines_listing h, listingLines, hthree]
  by_cases hempty : p.content = []
  · rw [hempty]
    rfl
  · rw [if_neg (by simpa using hempty), if_neg (by simpa using hempty)]
    rfl

end GraphBrowser.Report
