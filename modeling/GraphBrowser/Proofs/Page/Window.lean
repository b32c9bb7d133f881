import GraphBrowser.Page.Basic
import Mathlib.Data.List.Range

namespace GraphBrowser

theorem toNat_add_one {n : UInt32} (h : n.toNat < maxWord32) : (n + 1).toNat = n.toNat + 1 := by
  rw [UInt32.toNat_add, UInt32.toNat_one]
  exact Nat.mod_eq_of_lt (Nat.succ_lt_succ h)

theorem toNat_next {n total : UInt32} (h : n < total) : (n + 1).toNat = n.toNat + 1 := by
  rw [UInt32.lt_iff_toNat_lt] at h
  exact toNat_add_one (Nat.lt_of_lt_of_le h (Nat.le_of_lt_succ total.toNat_lt))

namespace Window

theorem bounds_stop_le (total current width : Nat) : (bounds total current width).2 ≤ total := by
  unfold bounds
  dsimp only
  split
  · exact Nat.le_refl total
  · split
    · exact Nat.le_refl total
    · rename_i hstop
      exact Nat.not_lt.mp hstop

/-- Shifting the window into the listing loses no page that was in it. -/
theorem mem_bounds {total current width j : Nat} (htotal : total ≤ maxWord32) (hj : j < total)
    (hleft : current - width / 2 ≤ j) (hright : j < current - width / 2 + width) :
    (bounds total current width).1 ≤ j ∧ j < (bounds total current width).2 := by
  unfold bounds
  dsimp only
  split
  · exact ⟨Nat.zero_le j, hj⟩
  · split
    · exact ⟨by omega, hj⟩
    · exact ⟨hleft, by omega⟩

/-- The offered pages as numbers; none of them is too large for a word. -/
theorem toNat_pages (total current width : UInt32) :
    (pages total current width).map UInt32.toNat =
      List.range' ((bounds total.toNat current.toNat width.toNat).1 + 1)
        ((bounds total.toNat current.toNat width.toNat).2 -
          (bounds total.toNat current.toNat width.toNat).1) := by
  have hstop := bounds_stop_le total.toNat current.toNat width.toNat
  unfold pages
  generalize bounds total.toNat current.toNat width.toNat = b at hstop ⊢
  rw [List.map_map, List.map_congr_left, List.map_id]
  intro k hk
  rw [List.mem_range'_1] at hk
  exact UInt32.toNat_ofNat_of_lt' (Nat.lt_of_le_of_lt (by omega) total.toNat_lt)

theorem mem_pages {total current width page : UInt32} :
    page ∈ pages total current width ↔
      (bounds total.toNat current.toNat width.toNat).1 < page.toNat ∧
        page.toNat ≤ (bounds total.toNat current.toNat width.toNat).2 := by
  have hinj : Function.Injective UInt32.toNat := fun _ _ => UInt32.toNat_inj.mp
  rw [← List.mem_map_of_injective hinj, toNat_pages, List.mem_range'_1]
  omega

theorem pages_range {total current width page : UInt32} (h : page ∈ pages total current width) :
    0 < page.toNat ∧ page.toNat ≤ total.toNat := by
  have hstop := bounds_stop_le total.toNat current.toNat width.toNat
  have hbounds := mem_pages.mp h
  omega

theorem mem_pages_around {total current width page : UInt32} (hpage : page.toNat ≤ total.toNat)
    (hleft : current.toNat - width.toNat / 2 < page.toNat)
    (hright : page.toNat ≤ current.toNat - width.toNat / 2 + width.toNat) :
    page ∈ pages total current width := by
  have htotal : total.toNat ≤ maxWord32 := Nat.le_of_lt_succ total.toNat_lt
  have hbounds := @mem_bounds total.toNat current.toNat width.toNat (page.toNat - 1) htotal
    (by omega) (by omega) (by omega)
  exact mem_pages.mpr (by omega)

theorem mem_pages_near {total current width page : UInt32} (hwidth : 3 ≤ width.toNat)
    (hpos : 0 < page.toNat) (hpage : page.toNat ≤ total.toNat)
    (hleft : current.toNat ≤ page.toNat) (hright : page.toNat ≤ current.toNat + 2) :
    page ∈ pages total current width :=
  mem_pages_around hpage (by omega) (by omega)

theorem current_mem_pages {total current width : UInt32} (hcurrent : current < total)
    (hwidth : 1 ≤ width) : current + 1 ∈ pages total current width := by
  have hnext := toNat_next hcurrent
  rw [UInt32.lt_iff_toNat_lt] at hcurrent
  rw [UInt32.le_iff_toNat_le, UInt32.toNat_one] at hwidth
  exact mem_pages_around (by omega) (by omega) (by omega)

theorem bounds_length {total current width : Nat} (htotal : total ≤ maxWord32)
    (hcurrent : current ≤ maxWord32) :
    (bounds total current width).2 - (bounds total current width).1 =
      if total ≤ width then total else min width (maxWord32 - (current - width / 2)) := by
  unfold bounds
  dsimp only
  split
  · exact Nat.sub_zero total
  · split
    · omega
    · omega

/-- Where no number is too large for a word, the window starts half a width before the current page,
but never so late that it would run past the last page. -/
theorem bounds_start {total current width : Nat}
    (hroom : current - width / 2 + width ≤ maxWord32) :
    (bounds total current width).1 = min (current - width / 2) (total - width) := by
  unfold bounds
  dsimp only
  split
  · omega
  · split
    · omega
    · omega

theorem length_pages (total current width : UInt32) :
    (pages total current width).length =
      if total.toNat ≤ width.toNat then total.toNat
      else min width.toNat (maxWord32 - (current.toNat - width.toNat / 2)) := by
  have htotal : total.toNat ≤ maxWord32 := Nat.le_of_lt_succ total.toNat_lt
  have hcurrent : current.toNat ≤ maxWord32 := Nat.le_of_lt_succ current.toNat_lt
  rw [← List.length_map UInt32.toNat, toNat_pages, List.length_range', bounds_length htotal hcurrent]

theorem length_pages_eq_min_iff (total current width : UInt32) :
    (pages total current width).length = min total.toNat width.toNat ↔
      total.toNat ≤ width.toNat ∨
        current.toNat - width.toNat / 2 + width.toNat ≤ maxWord32 := by
  have hcurrent : current.toNat ≤ maxWord32 := Nat.le_of_lt_succ current.toNat_lt
  rw [length_pages]
  split
  · omega
  · omega

/-- The links are a run of consecutive pages of the listing, at most as many as the window is wide,
and the current page is among them. Unless the window would reach beyond the largest word, it starts
half a width before the current page, shifted into the listing. -/
theorem pages_surround_current (total current width : UInt32) :
    (pages total current width).IsChain (fun p q => q.toNat = p.toNat + 1) ∧
    (∀ p ∈ pages total current width, 1 ≤ p ∧ p ≤ total) ∧
    (pages total current width).length ≤ width.toNat ∧
    (current < total → 1 ≤ width → current + 1 ∈ pages total current width) ∧
    (current.toNat - width.toNat / 2 + width.toNat ≤ maxWord32 →
      (pages total current width).map UInt32.toNat =
        List.range' (min (current.toNat - width.toNat / 2) (total.toNat - width.toNat) + 1)
          (min total.toNat width.toNat)) := by
  refine ⟨?_, fun p hp => pages_range hp, ?_, current_mem_pages, ?_⟩
  · have hrun := List.isChain_range' ((bounds total.toNat current.toNat width.toNat).1 + 1)
      ((bounds total.toNat current.toNat width.toNat).2 -
        (bounds total.toNat current.toNat width.toNat).1) 1
    rw [← toNat_pages, List.isChain_map] at hrun
    exact hrun
  · rw [length_pages]
    split
    · assumption
    · exact Nat.min_le_left _ _
  · intro hroom
    have hcount := (length_pages_eq_min_iff total current width).mpr (.inr hroom)
    rw [← List.length_map UInt32.toNat, toNat_pages, List.length_range'] at hcount
    rw [toNat_pages, hcount, bounds_start hroom]

theorem pages_surround_current_last :
    (22 : UInt32) < 23 ∧ (1 : UInt32) ≤ 10 ∧
    (22 : UInt32).toNat - (10 : UInt32).toNat / 2 + (10 : UInt32).toNat ≤ maxWord32 ∧
    (22 : UInt32) + 1 ∈ pages 23 22 10 ∧
    (pages 23 22 10).map UInt32.toNat = [14, 15, 16, 17, 18, 19, 20, 21, 22, 23] := by
  obtain ⟨-, -, -, hmem, hpages⟩ := pages_surround_current 23 22 10
  exact ⟨by decide, by decide, by decide, hmem (by decide) (by decide), hpages (by decide)⟩

/-- The window holds as many pages as fit into it, or all of them, if and only if it need not reach
beyond the largest word. Otherwise it is cut off there before it is shifted into the listing, and
stays short. With more than ten pages, ten are offered unless the current one is among the last
that a word can number. -/
theorem pages_full_iff (total current width : UInt32) :
    ((pages total current width).length =
      if total.toNat ≤ width.toNat then total.toNat
      else min width.toNat (maxWord32 - (current.toNat - width.toNat / 2))) ∧
    ((pages total current width).length = min total.toNat width.toNat ↔
      total.toNat ≤ width.toNat ∨
        current.toNat - width.toNat / 2 + width.toNat ≤ maxWord32) ∧
    (10 < total.toNat →
      ((pages total current maxVisiblePages).length = 10 ↔ current.toNat + 5 ≤ maxWord32)) := by
  refine ⟨length_pages total current width, length_pages_eq_min_iff total current width, ?_⟩
  intro htotal
  have hten : maxVisiblePages.toNat = 10 := rfl
  have hmin : min total.toNat maxVisiblePages.toNat = 10 := by omega
  have hfull := length_pages_eq_min_iff total current maxVisiblePages
  have hmax : maxWord32 = 4294967295 := rfl
  rw [hmin, hten] at hfull
  rw [hfull]
  omega

theorem pages_full_iff_lastRoom :
    10 < (23 : UInt32).toNat ∧ (pages 23 4294967290 maxVisiblePages).length = 10 :=
  ⟨by decide, ((pages_full_iff 23 4294967290 maxVisiblePages).2.2 (by decide)).mpr (by decide)⟩

/-- Far behind the last of 23 pages only six of them are offered, and ten are missing. -/
theorem pages_not_full :
    ¬ ∀ total current width : UInt32,
      (pages total current width).length = min total.toNat width.toNat := by
  intro h
  have hsix : pages 23 4294967294 10 = [18, 19, 20, 21, 22, 23] := by decide
  have hten := h 23 4294967294 10
  rw [hsix] at hten
  exact absurd hten (by decide)

end Window

end GraphBrowser
