import GraphBrowser.Url.Encoding
import GraphBrowser.Proofs.Text.Basic
import GraphBrowser.Proofs.Text.Bytes

namespace GraphBrowser

namespace Url

theorem digitValue_upperDigit : ∀ n < 16, Text.digitValue? (upperDigit n) = some n := by decide

theorem percentDecode_encodeByte (b : UInt8) (rest : List Char) :
    percentDecode (encodeByte b ++ rest) = b :: percentDecode rest := by
  have hb : b.toNat < 256 := b.toNat_lt
  have hn : b.toNat / 16 * 16 + b.toNat % 16 = b.toNat := by omega
  simp only [encodeByte, List.cons_append, List.nil_append, percentDecode,
    digitValue_upperDigit (b.toNat / 16) (by omega), digitValue_upperDigit (b.toNat % 16) (by omega),
    hn, UInt8.ofNat_toNat]

theorem percentDecode_encodeBytes (bs : List UInt8) (rest : List Char) :
    percentDecode (bs.flatMap encodeByte ++ rest) = bs ++ percentDecode rest := by
  induction bs with
  | nil => rfl
  | cons b bs ih => rw [List.flatMap_cons, List.append_assoc, percentDecode_encodeByte, ih,
    List.cons_append]

theorem percentDecode_cons {c : Char} (h : c ≠ '%') (rest : List Char) :
    percentDecode (c :: rest) = String.utf8EncodeChar c ++ percentDecode rest := by
  simp [percentDecode, h]

namespace Form

theorem isPlain_upperDigit : ∀ n < 16, isPlain (upperDigit n) = true := by decide

theorem mem_encodeByte {b : UInt8} {c : Char} (h : c ∈ encodeByte b) :
    isPlain c = true ∨ c = '%' := by
  have hb : b.toNat < 256 := b.toNat_lt
  simp only [encodeByte, List.mem_cons, List.not_mem_nil, or_false] at h
  rcases h with rfl | rfl | rfl
  · exact .inr rfl
  · exact .inl (isPlain_upperDigit _ (by omega))
  · exact .inl (isPlain_upperDigit _ (by omega))

theorem mem_encodeText {s : String} {c : Char} (h : c ∈ encodeText s) :
    isPlain c = true ∨ c = '+' ∨ c = '%' := by
  obtain ⟨d, _, h⟩ := List.mem_flatMap.mp h
  unfold encodeChar at h
  split at h
  · exact .inr (.inl (List.mem_singleton.mp h))
  · split at h
    · rename_i hd
      exact .inl (List.mem_singleton.mp h ▸ hd)
    · obtain ⟨b, _, h⟩ := List.mem_flatMap.mp h
      exact (mem_encodeByte h).imp_right .inr

theorem separator_not_mem {sep : Char} (h : isPlain sep = false) (hplus : sep ≠ '+')
    (hpercent : sep ≠ '%') (s : String) : sep ∉ encodeText s := by
  intro hm
  rcases mem_encodeText hm with hp | hp | hp
  · rw [h] at hp
    cases hp
  · exact hplus hp
  · exact hpercent hp

def blanked (cs : List Char) : List Char := cs.map fun c => if c = '+' then ' ' else c

theorem blanked_append (cs ds : List Char) : blanked (cs ++ ds) = blanked cs ++ blanked ds :=
  List.map_append

theorem blanked_eq {cs : List Char} (h : '+' ∉ cs) : blanked cs = cs := by
  have hsame : ∀ c ∈ cs, (if c = '+' then ' ' else c) = id c := by
    intro c hc
    have hne : c ≠ '+' := fun he => h (he ▸ hc)
    rw [if_neg hne, id]
  rw [blanked, List.map_congr_left hsame, List.map_id]

theorem percentDecode_encodeChar (c : Char) (rest : List Char) :
    percentDecode (blanked (encodeChar c) ++ rest) =
      String.utf8EncodeChar c ++ percentDecode rest := by
  unfold encodeChar
  split
  · rename_i hc
    rw [hc]
    exact percentDecode_cons (by decide) rest
  · split
    · rename_i hc
      have hplus : c ≠ '+' := by
        rintro rfl
        revert hc
        decide
      have hpercent : c ≠ '%' := by
        rintro rfl
        revert hc
        decide
      rw [blanked_eq (by simpa using hplus.symm)]
      exact percentDecode_cons hpercent rest
    · have hplus : '+' ∉ (String.utf8EncodeChar c).flatMap encodeByte := by
        intro h
        obtain ⟨b, _, h⟩ := List.mem_flatMap.mp h
        rcases mem_encodeByte h with hp | hp
        · revert hp
          decide
        · revert hp
          decide
      rw [blanked_eq hplus, percentDecode_encodeBytes]

theorem percentDecode_encodeText (cs : List Char) :
    percentDecode (blanked (cs.flatMap encodeChar)) = Text.utf8Bytes cs := by
  induction cs with
  | nil => rfl
  | cons c cs ih =>
    rw [List.flatMap_cons, blanked_append, percentDecode_encodeChar, ih]
    rfl

theorem decodeText_encodeText (s : String) : decodeText (encodeText s) = s := by
  change String.ofList (Text.decodeLossy (percentDecode (blanked (encodeText s)))) = s
  rw [encodeText, percentDecode_encodeText, Text.decodeLossy_utf8Bytes, String.ofList_toList]

theorem decodePair_encodePair (p : String × String) : decodePair (encodePair p) = p := by
  unfold decodePair encodePair
  rw [Text.cut_append (separator_not_mem (by decide) (by decide) (by decide) p.1)]
  simp only [decodeText_encodeText]

theorem encodePair_plain (p : String × String) : '&' ∉ encodePair p := by
  unfold encodePair
  rw [List.mem_append, List.mem_cons, not_or, not_or]
  exact ⟨separator_not_mem (by decide) (by decide) (by decide) p.1, by decide,
    separator_not_mem (by decide) (by decide) (by decide) p.2⟩

theorem pieces_encode {ps : Parameters} (h : ps ≠ []) :
    Text.pieces '&' (encode ps) = ps.map encodePair := by
  refine Text.pieces_intercalate (by simpa using h) ?_
  intro cs hcs
  obtain ⟨p, _, rfl⟩ := List.mem_map.mp hcs
  exact encodePair_plain p

theorem decode_encode (ps : Parameters) : decode (encode ps) = ps := by
  by_cases h : ps = []
  · subst h
    rfl
  · have hall : ∀ cs ∈ ps.map encodePair, (!cs.isEmpty) = true := by
      intro cs hcs
      obtain ⟨p, _, rfl⟩ := List.mem_map.mp hcs
      simp [encodePair]
    have hsame : ∀ p ∈ ps, (decodePair ∘ encodePair) p = id p := fun p _ => decodePair_encodePair p
    rw [decode, pieces_encode h, List.filter_eq_self.mpr hall, List.map_map,
      List.map_congr_left hsame, List.map_id]

theorem length_encodeText (s : String) : s.length ≤ (encodeText s).length := by
  have hchar : ∀ c, 1 ≤ (encodeChar c).length := by
    intro c
    unfold encodeChar
    split
    · exact Nat.le_refl 1
    · split
      · exact Nat.le_refl 1
      · have hpos : 0 < (String.utf8EncodeChar c).length :=
          List.length_pos_iff.mpr String.utf8EncodeChar_ne_nil
        obtain ⟨b, bs, hb⟩ := List.exists_cons_of_length_pos hpos
        simp [hb, encodeByte]
  rw [← String.length_toList, encodeText]
  induction s.toList with
  | nil => exact Nat.le_refl 0
  | cons c cs ih =>
    have hc := hchar c
    simp only [List.flatMap_cons, List.length_append, List.length_cons]
    omega

theorem length_intercalate {ps : List (List Char)} {p : List Char} (h : p ∈ ps) (sep : List Char) :
    p.length ≤ (sep.intercalate ps).length := by
  induction ps with
  | nil => cases h
  | cons q ps ih =>
    cases ps with
    | nil =>
      have hp := List.mem_singleton.mp h
      simp [hp]
    | cons r ps =>
      rw [List.intercalate_cons_cons]
      simp only [List.length_append]
      rcases List.mem_cons.mp h with rfl | h
      · omega
      · have hr := ih h
        omega

theorem length_encode {ps : Parameters} {p : String × String} (h : p ∈ ps) :
    p.2.length ≤ (encode ps).length := by
  have hvalue := length_encodeText p.2
  have hpair : (encodePair p).length ≤ (encode ps).length :=
    length_intercalate (List.mem_map_of_mem h) _
  simp only [encodePair, List.length_append, List.length_cons] at hpair
  omega

end Form

end Url

end GraphBrowser
