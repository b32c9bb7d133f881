import GraphBrowser.Proofs.Page.Slice
import GraphBrowser.Proofs.Page.Window

namespace GraphBrowser

theorem toNat_sub_one {n : UInt32} (h : 0 < n.toNat) : (n - 1).toNat = n.toNat - 1 := by
  have hle : (1 : UInt32) ≤ n := UInt32.le_iff_toNat_le.mpr h
  rw [UInt32.toNat_sub_of_le _ _ hle, UInt32.toNat_one]

theorem toNat_sub_min_one (n : UInt32) : (n - min n 1).toNat = n.toNat - 1 := by
  have hle : min n 1 ≤ n := by
    rw [UInt32.le_iff_toNat_le, UInt32.toNat_min]
    exact Nat.min_le_left _ _
  rw [UInt32.toNat_sub_of_le _ _ hle, UInt32.toNat_min, UInt32.toNat_one]
  omega

namespace ResultPage

variable {all : List α} {number size : UInt32} {p : ResultPage α}

structure Consistent (p : ResultPage α) : Prop where
  count_eq : p.numberOfElements.toNat = p.content.length
  count_le : p.content.length ≤ p.size.toNat
  number_lt : p.number.toNat < max p.totalPages.toNat 1
  first_iff : p.first = true ↔ p.number.toNat = 0
  last_iff : p.last = true ↔ p.totalPages.toNat ≤ p.number.toNat + 1

/-- The index of the last page is computed without a sum, and not at all if there are no pages. -/
theorem isLast_iff {total : UInt32} (h : number.toNat < max total.toNat 1) :
    (total = 0 || number = total - 1 : Bool) = true ↔ total.toNat ≤ number.toNat + 1 := by
  rw [Bool.or_eq_true, decide_eq_true_eq, decide_eq_true_eq, ← UInt32.toNat_inj,
    ← UInt32.toNat_inj, UInt32.toNat_zero]
  by_cases hzero : total.toNat = 0
  · simp [hzero]
  · rw [toNat_sub_one (Nat.pos_of_ne_zero hzero)]
    omega

theorem isConsistent_iff : p.isConsistent = true ↔ p.Consistent := by
  have hfirst : p.first = (p.number = 0 : Bool) ↔ (p.first = true ↔ p.number.toNat = 0) := by
    rw [Bool.eq_iff_iff, decide_eq_true_eq, ← UInt32.toNat_inj, UInt32.toNat_zero]
  have hlast (h : p.number.toNat < max p.totalPages.toNat 1) :
      p.last = (p.totalPages = 0 || p.number = p.totalPages - 1 : Bool) ↔
        (p.last = true ↔ p.totalPages.toNat ≤ p.number.toNat + 1) := by
    rw [Bool.eq_iff_iff, isLast_iff h]
  have hnumber : p.number < max p.totalPages 1 ↔ p.number.toNat < max p.totalPages.toNat 1 := by
    rw [UInt32.lt_iff_toNat_lt, UInt32.toNat_max, UInt32.toNat_one]
  unfold isConsistent
  simp only [Bool.and_eq_true, decide_eq_true_eq, and_assoc, UInt32.le_iff_toNat_le, hnumber,
    hfirst]
  constructor
  · rintro ⟨hcount, hsize, hlt, hf, hl⟩
    exact ⟨hcount, hcount ▸ hsize, hlt, hf, (hlast hlt).mp hl⟩
  · intro h
    exact ⟨h.count_eq, h.count_eq ▸ h.count_le, h.number_lt, h.first_iff,
      (hlast h.number_lt).mpr h.last_iff⟩

theorem Cut.isConsistent_iff (h : Cut all number size p) :
    p.isConsistent = true ↔ number.toNat < max p.totalPages.toNat 1 := by
  rw [ResultPage.isConsistent_iff]
  constructor
  · intro hp
    rw [← h.number_eq]
    exact hp.number_lt
  · intro hlt
    refine ⟨h.numberOfElements_eq, ?_, ?_, ?_, ?_⟩
    · rw [h.size_eq]
      exact h.length_content_le
    · rw [h.number_eq]
      exact hlt
    · rw [h.first_iff, h.number_eq, ← UInt32.toNat_inj, UInt32.toNat_zero]
    · rw [h.last_iff, h.number_eq]

/-- There are listings with any number of pages that a word can count. -/
theorem exists_listing (hsize : 0 < size) (a : α) (total : UInt32) :
    ∃ all : List α, ∀ number, ∃ p, ofList all number size = .ok p ∧ p.totalPages = total := by
  have hpos : 0 < size.toNat := UInt32.lt_iff_toNat_lt.mp hsize
  have hcount : (List.replicate (size.toNat * total.toNat) a).length ⌈/⌉ size.toNat =
      total.toNat := by
    rw [List.length_replicate]
    exact smul_ceilDiv hpos total.toNat
  refine ⟨List.replicate (size.toNat * total.toNat) a, fun number => ?_⟩
  have hle : total.toNat ≤ maxWord32 := Nat.le_of_lt_succ total.toNat_lt
  obtain ⟨p, hp⟩ := exists_ofList hsize (hcount ▸ hle) number
  have htotal := (cut_of_ofList hp).totalPages_eq
  rw [hcount, UInt32.toNat_inj] at htotal
  exact ⟨p, hp, htotal⟩

/-- A page that has been cut out of a listing agrees with itself if and only if the listing has such
a page. A listing without elements has a first page, which is the empty one. There may be as many
pages as a word can count. -/
theorem page_agrees_iff_there (size : UInt32) :
    (∀ (all : List α) (number : UInt32) (p : ResultPage α), ofList all number size = .ok p →
      (p.isConsistent = true ↔ number.toNat < max p.totalPages.toNat 1) ∧
        p.totalPages.toNat = all.length ⌈/⌉ size.toNat) ∧
    (size ≠ 0 → ofList [] 0 size = .ok (empty size : ResultPage α) ∧
      (empty size : ResultPage α).isConsistent = true) ∧
    (size ≠ 0 → ∀ (_ : α) (total : UInt32), ∃ all : List α, ∀ number, ∃ p,
      ofList all number size = .ok p ∧ p.totalPages = total) := by
  refine ⟨fun all number p hp => ?_, fun hsize => ?_, fun hsize a total => ?_⟩
  · have hcut := cut_of_ofList hp
    exact ⟨hcut.isConsistent_iff, hcut.totalPages_eq⟩
  · have hcount : pageCount 0 size.toNat = 0 := by rw [pageCount_eq, zero_ceilDiv]
    have hempty : ofList [] 0 size = .ok (empty size : ResultPage α) := by
      simp [ofList, hsize, hcount, empty]
    exact ⟨hempty, (cut_of_ofList hempty).isConsistent_iff.mpr (lt_max_of_lt_right Nat.one_pos)⟩
  · exact exists_listing (UInt32.pos_iff_ne_zero.mpr hsize) a total

theorem page_agrees_iff_there_lastWord :
    (1 : UInt32) ≠ 0 ∧ ∃ (all : List Unit) (last behind : ResultPage Unit),
      ofList all 4294967294 1 = .ok last ∧ last.isConsistent = true ∧
      ofList all 4294967295 1 = .ok behind ∧ ¬ behind.isConsistent = true := by
  obtain ⟨hthere, -, hexists⟩ := @page_agrees_iff_there Unit 1
  obtain ⟨all, hall⟩ := hexists (by decide) () 4294967295
  obtain ⟨last, hlast, htotal⟩ := hall 4294967294
  obtain ⟨behind, hbehind, htotal'⟩ := hall 4294967295
  have h := (hthere all _ last hlast).1
  have h' := (hthere all _ behind hbehind).1
  rw [htotal] at h
  rw [htotal'] at h'
  exact ⟨by decide, all, last, behind, hlast, h.mpr (by decide), hbehind, mt h'.mp (by decide)⟩

end ResultPage

end GraphBrowser
