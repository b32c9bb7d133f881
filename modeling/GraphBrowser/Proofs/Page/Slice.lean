import GraphBrowser.Page.Basic
import Mathlib.Algebra.Order.Floor.Div

namespace GraphBrowser.ResultPage

variable {all : List α} {number size : UInt32} {p : ResultPage α}

def slice (all : List α) (i size : Nat) : List α := (all.drop (i * size)).take size

theorem flatMap_slice (all : List α) (size k : Nat) :
    (List.range k).flatMap (fun i => slice all i size) = all.take (k * size) := by
  induction k with
  | zero => simp
  | succ k ih =>
    rw [List.range_succ, List.flatMap_append, ih, Nat.succ_mul, List.take_add]
    simp [slice]

theorem pageCount_eq (elements size : Nat) : pageCount elements size = elements ⌈/⌉ size :=
  (Nat.ceilDiv_eq_add_pred_div elements size).symm

theorem flatMap_pages (all : List α) {size : Nat} (hsize : 0 < size) :
    (List.range (all.length ⌈/⌉ size)).flatMap (fun i => slice all i size) = all := by
  rw [flatMap_slice, List.take_of_length_le]
  rw [Nat.mul_comm, ← ceilDiv_le_iff_le_mul hsize]

theorem length_lt_of_ceilDiv_le {n : Nat} (hsize : 0 < size.toNat)
    (h : n ⌈/⌉ size.toNat ≤ maxWord32) : n < UInt64.size := by
  rw [ceilDiv_le_iff_le_mul hsize] at h
  calc n ≤ size.toNat * maxWord32 := h
    _ ≤ maxWord32 * maxWord32 := Nat.mul_le_mul_right _ (Nat.le_of_lt_succ size.toNat_lt)
    _ < UInt64.size := by decide

structure Cut (all : List α) (number size : UInt32) (p : ResultPage α) : Prop where
  size_pos : 0 < size.toNat
  content_eq : p.content = slice all number.toNat size.toNat
  number_eq : p.number = number
  size_eq : p.size = size
  totalElements_eq : p.totalElements.toNat = all.length
  totalPages_eq : p.totalPages.toNat = all.length ⌈/⌉ size.toNat
  numberOfElements_eq : p.numberOfElements.toNat = p.content.length
  first_iff : p.first = true ↔ number = 0
  last_iff : p.last = true ↔ p.totalPages.toNat ≤ number.toNat + 1

theorem length_slice (all : List α) (i size : Nat) :
    (slice all i size).length = min size (all.length - i * size) := by
  rw [slice, List.length_take, List.length_drop]

theorem length_slice_le (all : List α) (i size : Nat) : (slice all i size).length ≤ size :=
  List.length_take_le size _

theorem cut_of_ofList (h : ofList all number size = .ok p) : Cut all number size p := by
  unfold ofList at h
  split at h
  · cases h
  · rename_i hsize
    dsimp only at h
    split at h
    · cases h
    · rename_i hpages
      have hpages : pageCount all.length size.toNat ≤ maxWord32 := Nat.not_lt.mp hpages
      have hmax : maxWord32 < UInt32.size := by decide
      have htotal : (UInt32.ofNat (pageCount all.length size.toNat)).toNat =
          pageCount all.length size.toNat :=
        UInt32.toNat_ofNat_of_lt' (Nat.lt_of_le_of_lt hpages hmax)
      have hlength : (slice all number.toNat size.toNat).length < UInt32.size :=
        Nat.lt_of_le_of_lt (length_slice_le _ _ _) size.toNat_lt
      have hpos : 0 < size.toNat := Nat.pos_of_ne_zero fun h0 => hsize (UInt32.toNat_inj.mp h0)
      have hcount : all.length < UInt64.size :=
        length_lt_of_ceilDiv_le hpos (pageCount_eq all.length _ ▸ hpages)
      injection h with h
      subst h
      refine ⟨hpos, rfl, rfl, rfl, ?_, htotal.trans (pageCount_eq _ _), ?_, ?_, ?_⟩
      · exact UInt64.toNat_ofNat_of_lt' hcount
      · exact UInt32.toNat_ofNat_of_lt' hlength
      · simp only [decide_eq_true_eq]
      · simp only [decide_eq_true_eq, htotal]
        omega

theorem exists_ofList (hsize : 0 < size) (h : all.length ⌈/⌉ size.toNat ≤ maxWord32)
    (number : UInt32) : ∃ p, ofList all number size = .ok p := by
  have hne : size ≠ 0 := (UInt32.ne_of_lt hsize).symm
  rw [← pageCount_eq] at h
  simp only [ofList, if_neg hne, if_neg (Nat.not_lt.mpr h)]
  exact ⟨_, rfl⟩

namespace Cut

theorem totalPages_le_iff (h : Cut all number size p) (k : Nat) :
    p.totalPages.toNat ≤ k ↔ all.length ≤ k * size.toNat := by
  rw [h.totalPages_eq, ceilDiv_le_iff_le_mul h.size_pos, Nat.mul_comm]

theorem content_ne_nil_iff (h : Cut all number size p) :
    p.content ≠ [] ↔ number.toNat < p.totalPages.toNat := by
  rw [← not_iff_not, not_not, Nat.not_lt, h.totalPages_le_iff, h.content_eq, slice,
    List.take_eq_nil_iff, List.drop_eq_nil_iff, or_iff_right h.size_pos.ne']

theorem length_content (h : Cut all number size p) (hlt : number.toNat + 1 < p.totalPages.toNat) :
    p.content.length = size.toNat := by
  rw [← not_le, h.totalPages_le_iff, not_le, Nat.succ_mul] at hlt
  rw [h.content_eq, length_slice]
  omega

theorem length_content_le (h : Cut all number size p) : p.content.length ≤ size.toNat := by
  rw [h.content_eq]
  exact length_slice_le _ _ _

end Cut

end GraphBrowser.ResultPage
