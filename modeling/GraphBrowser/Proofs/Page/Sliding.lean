import GraphBrowser.Proofs.Page.Window
import Mathlib.Order.Basic

namespace GraphBrowser.Window

/-- A number that follows another one: it never falls while that one grows, and grows by no more. -/
def Follows (f : Nat → Nat) : Prop := ∀ m n, m ≤ n → f m ≤ f n ∧ f n ≤ f m + (n - m)

/-- It is enough to look at single steps. -/
theorem follows_of_step {f : Nat → Nat} (h : ∀ n, f n ≤ f (n + 1) ∧ f (n + 1) ≤ f n + 1) :
    Follows f := by
  intro m n hmn
  induction n, hmn using Nat.le_induction with
  | base => exact ⟨Nat.le_refl _, Nat.le_add_right _ _⟩
  | succ n hmn ih =>
    obtain ⟨hup, hone⟩ := h n
    omega

/-- The next page moves each end of the window by at most one. In the middle both ends move; at the last
page they stand still; and where the window is cut off at the largest word only its start moves. -/
theorem bounds_next (total current width : Nat) :
    ((bounds total current width).1 ≤ (bounds total (current + 1) width).1 ∧
      (bounds total (current + 1) width).1 ≤ (bounds total current width).1 + 1) ∧
    ((bounds total current width).2 ≤ (bounds total (current + 1) width).2 ∧
      (bounds total (current + 1) width).2 ≤ (bounds total current width).2 + 1) := by
  by_cases hall : total ≤ width
  · simp [bounds, hall]
  · have hstart : current + 1 - width / 2 = current - width / 2 ∨
        current + 1 - width / 2 = current - width / 2 + 1 := by omega
    simp only [bounds, hall, if_false]
    generalize current - width / 2 = start at hstart ⊢
    generalize current + 1 - width / 2 = start' at hstart ⊢
    by_cases hshift : total < min (start + width) maxWord32
    · have hshift' : total < min (start' + width) maxWord32 := by omega
      simp only [hshift, hshift', if_true]
      omega
    · by_cases hshift' : total < min (start' + width) maxWord32
      · simp only [hshift, hshift', if_false, if_true]
        omega
      · simp only [hshift, hshift', if_false]
        omega

theorem start_follows (total width : Nat) : Follows fun current => (bounds total current width).1 :=
  follows_of_step fun current => (bounds_next total current width).1

theorem stop_follows (total width : Nat) : Follows fun current => (bounds total current width).2 :=
  follows_of_step fun current => (bounds_next total current width).2

variable {total current width : UInt32}

theorem head_pages (h : pages total current width ≠ []) :
    ((pages total current width).head h).toNat =
      (bounds total.toNat current.toNat width.toNat).1 + 1 := by
  have hmap : (pages total current width).map UInt32.toNat ≠ [] := by simpa using h
  rw [← List.head_map hmap]
  simp only [toNat_pages, List.head_range']

theorem getLast_pages (h : pages total current width ≠ []) :
    ((pages total current width).getLast h).toNat =
      (bounds total.toNat current.toNat width.toNat).2 := by
  have hmap : (pages total current width).map UInt32.toNat ≠ [] := by simpa using h
  have hlength : 0 < ((pages total current width).map UInt32.toNat).length := List.length_pos_iff.mpr hmap
  rw [toNat_pages, List.length_range'] at hlength
  rw [← List.getLast_map hmap]
  simp only [toNat_pages, List.getLast_range']
  omega

/-- The links move with the shown page. Neither the first nor the last of them ever moves backwards, and
both move by no more pages than the shown one; so one page further each of them stays or moves by one. -/
theorem pages_slide {current' : UInt32} (hle : current ≤ current')
    (h : pages total current width ≠ []) (h' : pages total current' width ≠ []) :
    let first := ((pages total current width).head h).toNat
    let first' := ((pages total current' width).head h').toNat
    let last := ((pages total current width).getLast h).toNat
    let last' := ((pages total current' width).getLast h').toNat
    (first ≤ first' ∧ first' ≤ first + (current'.toNat - current.toNat)) ∧
    (last ≤ last' ∧ last' ≤ last + (current'.toNat - current.toNat)) ∧
    (current'.toNat = current.toNat + 1 →
      (first' = first ∨ first' = first + 1) ∧ (last' = last ∨ last' = last + 1)) := by
  dsimp only
  rw [head_pages, head_pages, getLast_pages, getLast_pages]
  rw [UInt32.le_iff_toNat_le] at hle
  obtain ⟨hfirst, hfirst'⟩ := start_follows total.toNat width.toNat _ _ hle
  obtain ⟨hlast, hlast'⟩ := stop_follows total.toNat width.toNat _ _ hle
  dsimp only at hfirst hfirst' hlast hlast'
  refine ⟨⟨?_, ?_⟩, ⟨hlast, hlast'⟩, fun hnext => ⟨?_, ?_⟩⟩
  all_goals omega

theorem pages_slide_cutOff :
    ∃ (h : pages 23 4294967290 10 ≠ []) (h' : pages 23 4294967294 10 ≠ []),
      (4294967290 : UInt32) ≤ 4294967294 ∧
      ((pages 23 4294967294 10).head h').toNat ≤ ((pages 23 4294967290 10).head h).toNat + 4 ∧
      ((pages 23 4294967290 10).getLast h).toNat ≤ ((pages 23 4294967294 10).getLast h').toNat := by
  have h : pages 23 4294967290 10 ≠ [] := by decide
  have h' : pages 23 4294967294 10 ≠ [] := by decide
  obtain ⟨⟨-, hfirst⟩, ⟨hlast, -⟩, -⟩ := pages_slide (by decide) h h'
  exact ⟨h, h', by decide, hfirst, hlast⟩

end GraphBrowser.Window
