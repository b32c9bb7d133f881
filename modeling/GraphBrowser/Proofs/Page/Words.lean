import GraphBrowser.Proofs.Page.Slice

namespace GraphBrowser.ResultPage

variable {number size : UInt32}

/-- The word of a number, or the largest one if the number is too large for a word. -/
def saturated (n : Nat) : UInt64 := .ofNat (min n (UInt64.size - 1))

def startWord (total : UInt64) (number size : UInt32) : UInt64 :=
  min (saturated (number.toNat * size.toNat)) total

def stopWord (total : UInt64) (number size : UInt32) : UInt64 :=
  min (saturated ((startWord total number size).toNat + size.toNat)) total

def pagesWord (total : UInt64) (size : UInt32) : UInt64 :=
  if total % size.toUInt64 = 0 then total / size.toUInt64 else total / size.toUInt64 + 1

/-- The number of the page after `number`, or the largest word. -/
def nextWord (number : UInt32) : UInt32 := .ofNat (min (number.toNat + 1) maxWord32)

def ofListInWords (all : List α) (number size : UInt32) : Except Error (ResultPage α) :=
  if size = 0 then
    .error zeroSize
  else
    let total := UInt64.ofNat all.length
    let pages := pagesWord total size
    if .ofNat maxWord32 < pages then
      .error (.invalidArgument ("too many pages for " ++ toString total ++ " elements"))
    else
      let content := (all.take (stopWord total number size).toNat).drop
        (startWord total number size).toNat
      .ok {
        content := content
        number := number
        size := size
        totalElements := total
        totalPages := pages.toUInt32
        numberOfElements := (UInt64.ofNat content.length).toUInt32
        first := number = 0
        last := pages.toUInt32 ≤ nextWord number }

theorem toNat_saturated {n : Nat} (h : n < UInt64.size) : (saturated n).toNat = n := by
  rw [saturated, Nat.min_eq_left (Nat.le_sub_one_of_lt h), UInt64.toNat_ofNat_of_lt' h]

/-- The product is not saturated, and neither is the sum that follows it. -/
theorem end_lt (number size : UInt32) :
    number.toNat * size.toNat + size.toNat < UInt64.size := by
  have hnumber : number.toNat + 1 ≤ UInt32.size := number.toNat_lt
  have hsize : size.toNat ≤ UInt32.size - 1 := Nat.le_sub_one_of_lt size.toNat_lt
  calc number.toNat * size.toNat + size.toNat = (number.toNat + 1) * size.toNat := by
        rw [Nat.succ_mul]
    _ ≤ UInt32.size * (UInt32.size - 1) := Nat.mul_le_mul hnumber hsize
    _ < UInt64.size := by decide

theorem toNat_startWord (total : UInt64) (number size : UInt32) :
    (startWord total number size).toNat = min (number.toNat * size.toNat) total.toNat := by
  have hlt := end_lt number size
  rw [startWord, UInt64.toNat_min, toNat_saturated (by omega)]

theorem sum_exact (total : UInt64) (number size : UInt32) :
    (saturated ((startWord total number size).toNat + size.toNat)).toNat =
      (startWord total number size).toNat + size.toNat := by
  have hlt := end_lt number size
  rw [toNat_saturated]
  rw [toNat_startWord]
  omega

theorem toNat_nextWord (number : UInt32) :
    (nextWord number).toNat = min (number.toNat + 1) maxWord32 :=
  UInt32.toNat_ofNat_of_lt' (Nat.lt_of_le_of_lt (Nat.min_le_right _ _) (by decide))

theorem nextWord_exact_iff (number : UInt32) :
    (nextWord number).toNat = number.toNat + 1 ↔ number.toNat < 2 ^ 32 - 1 := by
  have hmax : maxWord32 = 2 ^ 32 - 1 := rfl
  rw [toNat_nextWord, hmax]
  omega

theorem toNat_stopWord (total : UInt64) (number size : UInt32) :
    (stopWord total number size).toNat =
      min (min (number.toNat * size.toNat) total.toNat + size.toNat) total.toNat := by
  rw [stopWord, UInt64.toNat_min, sum_exact, toNat_startWord]

theorem ceilDiv_eq_ite (n : Nat) {s : Nat} (hs : 0 < s) :
    n ⌈/⌉ s = if n % s = 0 then n / s else n / s + 1 := by
  have hmod := Nat.mod_lt n hs
  have hdiv := Nat.div_add_mod n s
  rw [Nat.ceilDiv_eq_add_pred_div]
  split
  · rw [Nat.div_eq_iff hs, Nat.mul_comm]
    omega
  · rw [Nat.div_eq_iff hs, Nat.succ_mul, Nat.mul_comm]
    omega

theorem div_lt_of_mod_ne_zero {n s : Nat} (h : n % s ≠ 0) (hs : 0 < s) : n / s < n := by
  have hn : n ≠ 0 := by
    rintro rfl
    exact h (Nat.zero_mod s)
  have hone : s ≠ 1 := by
    rintro rfl
    exact h (Nat.mod_one n)
  exact Nat.div_lt_self (by omega) (by omega)

theorem toNat_pagesWord (total : UInt64) (hsize : 0 < size.toNat) :
    (pagesWord total size).toNat = total.toNat ⌈/⌉ size.toNat := by
  have hzero : total % size.toUInt64 = 0 ↔ total.toNat % size.toNat = 0 := by
    rw [← UInt64.toNat_inj, UInt64.toNat_mod]
    rfl
  rw [ceilDiv_eq_ite _ hsize, pagesWord]
  split
  · rw [if_pos (hzero.mp (by assumption))]
    rfl
  · rename_i hne
    rw [hzero] at hne
    have hlt : total.toNat / size.toNat + 1 < 2 ^ 64 :=
      Nat.lt_of_le_of_lt (div_lt_of_mod_ne_zero hne hsize) total.toNat_lt
    rw [if_neg hne, UInt64.toNat_add, UInt64.toNat_div, UInt64.toNat_one, UInt32.toNat_toUInt64,
      Nat.mod_eq_of_lt hlt]

theorem extract_eq_slice (all : List α) (i size : Nat) :
    (all.take (min (min (i * size) all.length + size) all.length)).drop
      (min (i * size) all.length) = slice all i size := by
  rw [List.drop_take, slice]
  by_cases h : i * size ≤ all.length
  · rw [Nat.min_eq_left h, List.take_eq_take_iff, List.length_drop]
    omega
  · have hall : all.length ≤ i * size := Nat.le_of_not_le h
    rw [Nat.min_eq_right hall, List.drop_length, List.drop_of_length_le hall, List.take_nil,
      List.take_nil]

/-- Cutting in machine words gives the same page, or the same refusal. -/
theorem ofListInWords_eq {all : List α} (hall : all.length < UInt64.size) (number size : UInt32) :
    ofListInWords all number size = ofList all number size := by
  have htotal : (UInt64.ofNat all.length).toNat = all.length := UInt64.toNat_ofNat_of_lt' hall
  unfold ofListInWords ofList
  dsimp only
  split
  · rfl
  · rename_i hsize
    have hpos : 0 < size.toNat := Nat.pos_of_ne_zero fun h0 => hsize (UInt32.toNat_inj.mp h0)
    have hpages := toNat_pagesWord (UInt64.ofNat all.length) hpos
    rw [htotal, ← pageCount_eq] at hpages
    have hword : pagesWord (UInt64.ofNat all.length) size =
        UInt64.ofNat (pageCount all.length size.toNat) := by
      rw [← hpages, UInt64.ofNat_toNat]
    have hmany : UInt64.ofNat maxWord32 < pagesWord (UInt64.ofNat all.length) size ↔
        maxWord32 < pageCount all.length size.toNat := by
      rw [UInt64.lt_iff_toNat_lt, hpages]
      rfl
    by_cases h : maxWord32 < pageCount all.length size.toNat
    · have htext : toString (UInt64.ofNat all.length) = toString all.length :=
        congrArg Nat.repr htotal
      rw [if_pos (hmany.mpr h), if_pos h, htext]
    · have hcontent : (all.take (stopWord (UInt64.ofNat all.length) number size).toNat).drop
          (startWord (UInt64.ofNat all.length) number size).toNat =
          (all.drop (number.toNat * size.toNat)).take size.toNat := by
        rw [toNat_stopWord, toNat_startWord, htotal, extract_eq_slice]
        rfl
      have hlast : UInt32.ofNat (pageCount all.length size.toNat) ≤ nextWord number ↔
          pageCount all.length size.toNat ≤ min (number.toNat + 1) maxWord32 := by
        have hmax : maxWord32 < UInt32.size := by decide
        rw [UInt32.le_iff_toNat_le, UInt32.toNat_ofNat_of_lt' (by omega), toNat_nextWord]
      rw [if_neg (mt hmany.mp h), if_neg h, hcontent, hword, UInt64.toUInt32_ofNat',
        UInt64.toUInt32_ofNat', decide_eq_decide.mpr hlast]

theorem ofList_cases (all : List α) (number size : UInt32) :
    ((size = 0 ∨ maxWord32 < all.length ⌈/⌉ size.toNat) ∧
      ∃ text, ofList all number size = .error (.invalidArgument text)) ∨
    (size ≠ 0 ∧ all.length ⌈/⌉ size.toNat ≤ maxWord32 ∧ ∃ p, ofList all number size = .ok p) := by
  by_cases hsize : size = 0
  · exact .inl ⟨.inl hsize, _, if_pos hsize⟩
  · by_cases hcount : all.length ⌈/⌉ size.toNat ≤ maxWord32
    · exact .inr ⟨hsize, hcount, exists_ofList (UInt32.pos_iff_ne_zero.mpr hsize) hcount number⟩
    · have hmany := Nat.not_le.mp hcount
      have hpages : maxWord32 < pageCount all.length size.toNat := by rwa [pageCount_eq]
      refine .inl ⟨.inr hmany, "too many pages for " ++ toString all.length ++ " elements", ?_⟩
      rw [ofList, if_neg hsize]
      exact if_pos hpages

theorem ofList_eq_error_iff (all : List α) (number size : UInt32) :
    (∃ e, ofList all number size = .error e) ↔
      size = 0 ∨ maxWord32 < all.length ⌈/⌉ size.toNat := by
  rcases ofList_cases all number size with ⟨h, text, htext⟩ | ⟨hsize, hcount, p, hp⟩
  · exact iff_of_true ⟨_, htext⟩ h
  · refine iff_of_false ?_ (not_or.mpr ⟨hsize, Nat.not_lt.mpr hcount⟩)
    rintro ⟨e, he⟩
    rw [hp] at he
    cases he

theorem ofList_eq_error {all : List α} {e : Error} (h : ofList all number size = .error e) :
    ∃ text, e = .invalidArgument text := by
  rcases ofList_cases all number size with ⟨_, text, htext⟩ | ⟨_, _, p, hp⟩
  · rw [htext] at h
    cases h
    exact ⟨text, rfl⟩
  · rw [hp] at h
    cases h

theorem Cut.behind {all : List α} {p : ResultPage α} (h : Cut all number size p)
    (hbehind : p.totalPages.toNat ≤ number.toNat) : p.content = [] ∧ p.last = true := by
  refine ⟨?_, h.last_iff.mpr (Nat.le_succ_of_le hbehind)⟩
  by_contra hne
  exact absurd (h.content_ne_nil_iff.mp hne) (Nat.not_lt.mpr hbehind)

/-- A listing falls into its pages: put together they are the listing, all but the last one are full,
and behind the last one there is nothing. What a page says about the listing is exact, also when it is
cut in machine words. What is computed on the way is exact with one exception: there is no word for the
number of the page after the one with the largest number, which says all the same that it is the last.
A page is refused only without a size, or with too many pages. -/
theorem listing_falls_into_pages (all : List α) (size : UInt32) :
    let count := all.length ⌈/⌉ size.toNat
    (∀ number, (∃ e, ofList all number size = .error e) ↔ size = 0 ∨ 2 ^ 32 - 1 < count) ∧
    (∀ number e, ofList all number size = .error e → ∃ text, e = .invalidArgument text) ∧
    (size ≠ 0 → count ≤ 2 ^ 32 - 1 → ∃ page : UInt32 → ResultPage α,
      (∀ number, ofList all number size = .ok (page number) ∧
        (page number).totalPages.toNat = count ∧
        (page number).totalElements.toNat = all.length ∧
        (page number).numberOfElements.toNat = (page number).content.length ∧
        ((page number).last = true ↔ count ≤ number.toNat + 1)) ∧
      (List.range count).flatMap (fun i => (page (.ofNat i)).content) = all ∧
      (∀ number, number.toNat + 1 < count → (page number).content.length = size.toNat) ∧
      (∀ number, number.toNat + 1 = count →
        1 ≤ (page number).content.length ∧ (page number).content.length ≤ size.toNat) ∧
      (∀ number, count ≤ number.toNat →
        (page number).content = [] ∧ (page number).last = true)) ∧
    (all.length < 2 ^ 64 → ∀ number, ofListInWords all number size = ofList all number size ∧
      (saturated (number.toNat * size.toNat)).toNat = number.toNat * size.toNat ∧
      (∀ total, (saturated ((startWord total number size).toNat + size.toNat)).toNat =
        (startWord total number size).toNat + size.toNat) ∧
      (size ≠ 0 → (pagesWord (.ofNat all.length) size).toNat = count) ∧
      ((nextWord number).toNat = number.toNat + 1 ↔ number.toNat < 2 ^ 32 - 1)) := by
  intro count
  refine ⟨fun number => ofList_eq_error_iff all number size, fun _ _ => ofList_eq_error,
    fun hsize hcount => ?_, fun hall number => ⟨ofListInWords_eq hall number size, ?_,
      fun total => sum_exact total number size, fun hsize => ?_, nextWord_exact_iff number⟩⟩
  · have hpos : 0 < size := UInt32.pos_iff_ne_zero.mpr hsize
    have hexists : ∀ number, ∃ p, ofList all number size = .ok p := exists_ofList hpos hcount
    choose page hpage using hexists
    have hcut : ∀ number, Cut all number size (page number) := fun number =>
      cut_of_ofList (hpage number)
    have htotal : ∀ number, (page number).totalPages.toNat = count := fun number =>
      (hcut number).totalPages_eq
    refine ⟨page, fun number => ⟨hpage number, htotal number, (hcut number).totalElements_eq,
      (hcut number).numberOfElements_eq, ?_⟩, ?_, fun number hlt => ?_, fun number hlast => ?_,
      fun number hbehind => ?_⟩
    · rw [(hcut number).last_iff, htotal]
    · have hslice : ∀ i ∈ List.range count,
          (page (.ofNat i)).content = slice all i size.toNat := by
        intro i hi
        have hword : (UInt32.ofNat i).toNat = i :=
          UInt32.toNat_ofNat_of_lt' (by rw [List.mem_range] at hi; unfold UInt32.size; omega)
        rw [(hcut _).content_eq, hword]
      rw [List.flatMap_congr hslice]
      exact flatMap_pages all (UInt32.lt_iff_toNat_lt.mp hpos)
    · exact (hcut number).length_content (by rw [htotal]; exact hlt)
    · have hne : (page number).content ≠ [] :=
        (hcut number).content_ne_nil_iff.mpr (by rw [htotal]; omega)
      exact ⟨List.length_pos_iff.mpr hne, (hcut number).length_content_le⟩
    · exact (hcut number).behind (by rw [htotal]; exact hbehind)
  · have hlt := end_lt number size
    exact toNat_saturated (by omega)
  · have hpos : 0 < size.toNat := UInt32.lt_iff_toNat_lt.mp (UInt32.pos_iff_ne_zero.mpr hsize)
    rw [toNat_pagesWord _ hpos, UInt64.toNat_ofNat_of_lt' hall]

theorem listing_falls_into_pages_seven :
    (3 : UInt32) ≠ 0 ∧ [1, 2, 3, 4, 5, 6, 7].length ⌈/⌉ (3 : UInt32).toNat ≤ 2 ^ 32 - 1 ∧
    [1, 2, 3, 4, 5, 6, 7].length < 2 ^ 64 ∧
    (∃ page : UInt32 → ResultPage Nat,
      (∀ number, ofList [1, 2, 3, 4, 5, 6, 7] number 3 = .ok (page number)) ∧
      (page 1).content.length = 3 ∧ 1 ≤ (page 2).content.length ∧ (page 9).content = [] ∧
      (page 9).last = true) ∧
    ofListInWords [1, 2, 3, 4, 5, 6, 7] 2 3 = ofList [1, 2, 3, 4, 5, 6, 7] 2 3 := by
  have hcount : [1, 2, 3, 4, 5, 6, 7].length ⌈/⌉ (3 : UInt32).toNat = 3 := by decide
  have hsmall : [1, 2, 3, 4, 5, 6, 7].length ⌈/⌉ (3 : UInt32).toNat ≤ 2 ^ 32 - 1 := by
    rw [hcount]
    decide
  obtain ⟨-, -, hcut, hwords⟩ := listing_falls_into_pages [1, 2, 3, 4, 5, 6, 7] 3
  obtain ⟨page, hpage, -, hfull, hlast, hbehind⟩ := hcut (by decide) hsmall
  rw [hcount] at hfull hlast hbehind
  exact ⟨by decide, hsmall, by decide, ⟨page, fun number => (hpage number).1, hfull 1 (by decide),
    (hlast 2 (by decide)).1, hbehind 9 (by decide)⟩, (hwords (by decide) 2).1⟩

/-- The number after the largest one is computed as the largest one. -/
theorem nextWord_saturates :
    (∃ p, ofListInWords ([] : List Nat) 4294967295 1 = .ok p ∧ p.last = true) ∧
      (nextWord 4294967295).toNat ≠ (4294967295 : UInt32).toNat + 1 :=
  ⟨⟨_, rfl, by decide⟩, by decide⟩

end GraphBrowser.ResultPage
