import GraphBrowser.Text.Bytes
import Mathlib.Data.String.Basic

namespace GraphBrowser.Text

def leadByte (mark k : Nat) : UInt8 := .ofNat (k + mark)

theorem lead_two : ∀ k < 32, 2 ≤ k → lead? (leadByte 0xc0 k) = some (k, 1) := by decide

theorem lead_three : ∀ k < 16, lead? (leadByte 0xe0 k) = some (k, 2) := by decide

theorem lead_four : ∀ k < 5, lead? (leadByte 0xf0 k) = some (k, 3) := by decide

def tailByte (k : Nat) : UInt8 := .ofNat (k + 0x80)

theorem isTail_tailByte : ∀ k < 64, isTail (tailByte k) = true := by decide

theorem toNat_tailByte : ∀ k < 64, (tailByte k).toNat - 0x80 = k := by decide

theorem isSecond_two : ∀ k < 32, ∀ m < 64, isSecond (leadByte 0xc0 k) (tailByte m) = true := by
  decide +kernel

/-- Three bytes hold nothing that two bytes could hold, and no surrogate. -/
theorem isSecond_three : ∀ k < 16, ∀ m < 64, 32 ≤ k * 64 + m → k * 64 + m < 864 ∨ 896 ≤ k * 64 + m →
    isSecond (leadByte 0xe0 k) (tailByte m) = true := by
  decide +kernel

/-- Four bytes hold nothing that three bytes could hold, and nothing beyond the last code point. -/
theorem isSecond_four : ∀ k < 5, ∀ m < 64, 16 ≤ k * 64 + m → k * 64 + m < 272 →
    isSecond (leadByte 0xf0 k) (tailByte m) = true := by
  decide +kernel

theorem pieceAt_one {k : Nat} (h : k < 0x80) (rest : List UInt8) :
    pieceAt (.ofNat k) rest = (some (.ofNat k), 0) := by
  have hlt : (UInt8.ofNat k) < 0x80 := by
    rw [UInt8.lt_iff_toNat_lt, UInt8.toNat_ofNat']
    simp
    omega
  have hk : (UInt8.ofNat k).toNat = k := by
    rw [UInt8.toNat_ofNat']
    omega
  simp [pieceAt, lead?, hlt, hk, tails]

theorem pieceAt_two {k m : Nat} (hk : k < 32) (hm : m < 64) (hlong : 2 ≤ k) (rest : List UInt8) :
    pieceAt (leadByte 0xc0 k) (tailByte m :: rest) = (some (.ofNat (k * 64 + m)), 1) := by
  simp [pieceAt, lead_two k hk hlong, tails, isSecond_two k hk m hm, toNat_tailByte m hm]

theorem pieceAt_three {k m n : Nat} (hk : k < 16) (hm : m < 64) (hn : n < 64)
    (hlong : 32 ≤ k * 64 + m) (hplain : k * 64 + m < 864 ∨ 896 ≤ k * 64 + m) (rest : List UInt8) :
    pieceAt (leadByte 0xe0 k) (tailByte m :: tailByte n :: rest) =
      (some (.ofNat ((k * 64 + m) * 64 + n)), 2) := by
  simp [pieceAt, lead_three k hk, tails, isSecond_three k hk m hm hlong hplain, isTail_tailByte n hn,
    toNat_tailByte m hm, toNat_tailByte n hn]

theorem pieceAt_four {k m n i : Nat} (hk : k < 5) (hm : m < 64) (hn : n < 64) (hi : i < 64)
    (hlong : 16 ≤ k * 64 + m) (hlast : k * 64 + m < 272) (rest : List UInt8) :
    pieceAt (leadByte 0xf0 k) (tailByte m :: tailByte n :: tailByte i :: rest) =
      (some (.ofNat (((k * 64 + m) * 64 + n) * 64 + i)), 3) := by
  simp [pieceAt, lead_four k hk, tails, isSecond_four k hk m hm hlong hlast, isTail_tailByte n hn,
    isTail_tailByte i hi, toNat_tailByte m hm, toNat_tailByte n hn, toNat_tailByte i hi]

theorem decodePieces_encodeChar (c : Char) (rest : List UInt8) :
    decodePieces (String.utf8EncodeChar c ++ rest) = some c :: decodePieces rest := by
  have hc : Char.ofNat c.val.toNat = c := Char.ofNat_toNat c
  have hvalid : c.val.toNat < 0xd800 ∨ 0xdfff < c.val.toNat ∧ c.val.toNat < 0x110000 := c.valid
  unfold String.utf8EncodeChar
  generalize c.val.toNat = v at hc hvalid ⊢
  dsimp only
  split
  · rw [List.singleton_append, decodePieces, pieceAt_one (by omega), hc]
    rfl
  · split
    · change decodePieces (leadByte 0xc0 (v / 64 % 32) :: tailByte (v % 64) :: rest) = _
      have hv : v / 64 % 32 * 64 + v % 64 = v := by omega
      rw [decodePieces, pieceAt_two (by omega) (by omega) (by omega), hv, hc]
      rfl
    · split
      · change decodePieces (leadByte 0xe0 (v / 4096 % 16) :: tailByte (v / 64 % 64) ::
          tailByte (v % 64) :: rest) = _
        have hv : (v / 4096 % 16 * 64 + v / 64 % 64) * 64 + v % 64 = v := by omega
        rw [decodePieces, pieceAt_three (by omega) (by omega) (by omega) (by omega) (by omega), hv,
          hc]
        rfl
      · change decodePieces (leadByte 0xf0 (v / 262144 % 8) :: tailByte (v / 4096 % 64) ::
          tailByte (v / 64 % 64) :: tailByte (v % 64) :: rest) = _
        have hv : ((v / 262144 % 8 * 64 + v / 4096 % 64) * 64 + v / 64 % 64) * 64 + v % 64 = v := by
          omega
        rw [decodePieces, pieceAt_four (by omega) (by omega) (by omega) (by omega) (by omega)
          (by omega), hv, hc]
        rfl

theorem decodePieces_utf8Bytes (cs : List Char) : decodePieces (utf8Bytes cs) = cs.map some := by
  induction cs with
  | nil => simp [utf8Bytes, decodePieces]
  | cons c cs ih =>
    rw [utf8Bytes, List.flatMap_cons, decodePieces_encodeChar]
    exact congrArg (some c :: ·) ih

theorem decodeLossy_utf8Bytes (cs : List Char) : decodeLossy (utf8Bytes cs) = cs := by
  rw [decodeLossy, decodePieces_utf8Bytes, List.map_map]
  exact List.map_id cs

theorem encodeChar_lt {c d : Char} (h : c < d) (xs ys : List UInt8) :
    String.utf8EncodeChar c ++ xs < String.utf8EncodeChar d ++ ys := by
  have hlt : c.val.toNat < d.val.toNat := h
  have hvalid : d.val.toNat < 0xd800 ∨ 0xdfff < d.val.toNat ∧ d.val.toNat < 0x110000 := d.valid
  unfold String.utf8EncodeChar
  generalize c.val.toNat = v at hlt ⊢
  generalize d.val.toNat = u at hlt hvalid ⊢
  dsimp only
  -- Shorter characters begin with smaller bytes; the first digits that differ decide between others.
  split_ifs <;>
    simp only [List.cons_append, List.nil_append, List.cons_lt_cons_iff, UInt8.lt_iff_toNat_lt,
      ← UInt8.toNat_inj, UInt8.toNat_ofNat'] <;>
    simp (disch := omega) only [Nat.mod_eq_of_lt] <;>
    omega

theorem utf8Bytes_lt {cs ds : List Char} (h : cs < ds) : utf8Bytes cs < utf8Bytes ds := by
  induction h with
  | @nil d ds =>
    obtain ⟨b, bs, hd⟩ := List.exists_cons_of_ne_nil (String.utf8EncodeChar_ne_nil (c := d))
    rw [utf8Bytes, utf8Bytes, List.flatMap_cons, hd]
    exact List.nil_lt_cons _ _
  | rel h => exact encodeChar_lt h _ _
  | cons _ ih => exact List.append_left_lt ih

theorem utf8Bytes_toList_lt {s t : String} (h : s < t) : utf8Bytes s.toList < utf8Bytes t.toList :=
  utf8Bytes_lt (String.lt_iff_toList_lt.mp h)

end GraphBrowser.Text
