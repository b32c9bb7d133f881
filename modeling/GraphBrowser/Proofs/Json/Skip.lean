import GraphBrowser.Json.Skip
import GraphBrowser.Proofs.Json.Layout

namespace GraphBrowser.Json

theorem skipChars_raw {cs : List Char} (h : RawChars cs) (rest : List Char) :
    skipChars (cs ++ rest) = .ok rest := by
  induction h with
  | quote => simp [skipChars]
  | @plain c cs hc hq hb _ ih =>
    rw [List.cons_append, skipChars.eq_6 c _ (fun _ _ _ _ _ h _ => hb h) (fun _ h _ => hb h)
      (fun h _ => hb h) (fun _ _ h _ => hb h), if_neg hq, if_neg (Nat.not_lt.mpr hc), ih]
  | @short letter c cs hm _ ih =>
    obtain ⟨he, hu⟩ := shortEscape_mem hm
    rw [List.cons_append, List.cons_append, skipChars.eq_5 letter _
      (fun _ _ _ _ _ h _ => hu h) hu, he, ih]
    rfl
  | hex hd _ ih =>
    obtain ⟨a, b, d, e, rfl, hn⟩ := hex4_digits hd
    simp only [List.cons_append, List.nil_append]
    rw [skipChars.eq_2, hn, ih]
    rfl

theorem skipScalar_number {c : Char} {cs rest : List Char} (h : NumberText (c :: cs))
    (hc : c = '-' ∨ isDigit c = true) (hr : Ended rest) :
    skipScalar (c :: (cs ++ rest)) = .ok rest := by
  obtain ⟨spelling, hspelled⟩ := exists_spelled h
  have hs := readSpelling_text hspelled hr
  rw [List.cons_append] at hs
  have hskip : skipNumber (c :: (cs ++ rest)) = .ok rest := by
    rw [skipNumber, hs]
  have hne := (number_char hc).2
  simp only [List.mem_cons, not_or] at hne
  have hb : (decide (c = '-') || isDigit c) = true := by simpa using hc
  unfold skipScalar
  split
  · rename_i h
    cases h
  · rename_i h
    exact absurd (List.cons.inj h).1 hne.1
  · rename_i h
    exact absurd (List.cons.inj h).1 hne.2.1
  · rename_i h
    exact absurd (List.cons.inj h).1 hne.2.2.1
  · rename_i h
    exact absurd (List.cons.inj h).1 hne.2.2.2.1
  · rename_i h
    obtain ⟨rfl, rfl⟩ := List.cons.inj h
    rw [if_pos hb, hskip]

/-- The text is passed over in a number of steps that is not larger than its length. -/
def SkipsValue (cs : List Char) : Prop :=
  ∃ k ≤ cs.length, ∀ n opened w rest, Blank w → Ended rest →
    skipWithin (n + k) false opened (w ++ (cs ++ rest)) = skipWithin n true opened rest

def SkipsItems (cs : List Char) : Prop :=
  ∃ k ≤ cs.length, ∀ n opened rest,
    skipWithin (n + k) true (.list :: opened) (cs ++ rest) = skipWithin n true opened rest

def SkipsMember (m : List Char) : Prop :=
  ∃ k ≤ m.length, ∀ n opened w rest, Blank w → Ended rest →
    ∃ after, skipKey (w ++ (m ++ rest)) = .ok after ∧
      skipWithin (n + k) false opened after = skipWithin n true opened rest

def SkipsMembers (cs : List Char) : Prop :=
  ∃ k ≤ cs.length, ∀ n opened rest,
    skipWithin (n + k) true (.object :: opened) (cs ++ rest) = skipWithin n true opened rest

theorem skips_scalar {c : Char} {cs : List Char} (hspace : isSpace c = false) (hl : c ≠ '[')
    (ho : c ≠ '\x7b')
    (h : ∀ rest, Ended rest → skipScalar (c :: (cs ++ rest)) = .ok rest) : SkipsValue (c :: cs) := by
  refine ⟨1, by simp, ?_⟩
  intro n opened w rest hw hr
  rw [List.cons_append, skipWithin, skipSpace_blank_cons hw hspace]
  split
  · rename_i heq
    exact absurd (List.cons.inj heq).1 hl
  · rename_i heq
    exact absurd (List.cons.inj heq).1 ho
  · rw [h rest hr]
    rfl

theorem skips_number {cs : List Char} (h : NumberText cs) : SkipsValue cs := by
  obtain ⟨c, t, rfl, hc⟩ := number_head h
  obtain ⟨hs, hne⟩ := number_char hc
  exact skips_scalar hs (fun h => hne (by simp [h])) (fun h => hne (by simp [h])) fun rest hr =>
    skipScalar_number h hc hr

theorem skips_emptyList {w : List Char} (hw : Blank w) : SkipsValue ('[' :: (w ++ [']'])) := by
  refine ⟨1, by simp, ?_⟩
  intro n opened w' rest hw' _
  simp only [List.cons_append, List.append_assoc, List.nil_append]
  rw [skipWithin, skipSpace_blank_cons hw' (by decide)]
  simp [skipSpace_blank_cons hw (show isSpace ']' = false by decide)]

theorem skips_list {w x cs : List Char} (hw : Blank w) (hb : Begins x) (hx : SkipsValue x)
    (hcs : SkipsItems cs) (he : ∀ rest, Ended (cs ++ rest)) :
    SkipsValue ('[' :: (w ++ (x ++ cs))) := by
  obtain ⟨k, hk, hx⟩ := hx
  obtain ⟨l, hl, hcs⟩ := hcs
  refine ⟨l + k + 1, by simp; omega, ?_⟩
  intro n opened w' rest hw' _
  simp only [List.cons_append, List.append_assoc]
  rw [← Nat.add_assoc, ← Nat.add_assoc, skipWithin, skipSpace_blank_cons hw' (by decide)]
  obtain ⟨c, x, rfl, hs, hclose, _⟩ := hb
  have hskip := hx (n + l) (.list :: opened) [] (cs ++ rest) blank_nil (he rest)
  rw [hcs, List.nil_append, List.cons_append] at hskip
  simpa [skipSpace_blank_cons hw hs, hclose] using hskip

theorem skips_emptyObject {w : List Char} (hw : Blank w) :
    SkipsValue ('\x7b' :: (w ++ ['\x7d'])) := by
  refine ⟨1, by simp, ?_⟩
  intro n opened w' rest hw' _
  simp only [List.cons_append, List.append_assoc, List.nil_append]
  rw [skipWithin, skipSpace_blank_cons hw' (by decide)]
  simp [skipSpace_blank_cons hw (show isSpace '\x7d' = false by decide)]

theorem skips_object {w m cs : List Char} (hw : Blank w) (hb : Begins m) (hm : SkipsMember m)
    (hcs : SkipsMembers cs) (he : ∀ rest, Ended (cs ++ rest)) :
    SkipsValue ('\x7b' :: (w ++ (m ++ cs))) := by
  obtain ⟨k, hk, hm⟩ := hm
  obtain ⟨l, hl, hcs⟩ := hcs
  refine ⟨l + k + 1, by simp; omega, ?_⟩
  intro n opened w' rest hw' _
  simp only [List.cons_append, List.append_assoc]
  rw [← Nat.add_assoc, ← Nat.add_assoc, skipWithin, skipSpace_blank_cons hw' (by decide)]
  obtain ⟨c, m, rfl, hs, _, hclose⟩ := hb
  obtain ⟨after, hkey, hskip⟩ := hm (n + l) (.object :: opened) [] (cs ++ rest) blank_nil (he rest)
  rw [List.nil_append, List.cons_append] at hkey
  rw [hcs] at hskip
  simp [skipSpace_blank_cons hw hs, hclose, hkey, bind, Except.bind, hskip]

theorem skips_closeList {w : List Char} (hw : Blank w) : SkipsItems (w ++ [']']) := by
  refine ⟨1, by simp, ?_⟩
  intro n opened rest
  rw [List.append_assoc, List.singleton_append, skipWithin, skipSpace_blank_cons hw (by decide)]
  rfl

theorem skips_item {w w' x cs : List Char} (hw : Blank w) (hw' : Blank w') (hx : SkipsValue x)
    (hcs : SkipsItems cs) (he : ∀ rest, Ended (cs ++ rest)) :
    SkipsItems (w ++ ',' :: (w' ++ (x ++ cs))) := by
  obtain ⟨k, hk, hx⟩ := hx
  obtain ⟨l, hl, hcs⟩ := hcs
  refine ⟨l + k + 1, by simp; omega, ?_⟩
  intro n opened rest
  simp only [List.cons_append, List.append_assoc]
  rw [← Nat.add_assoc, ← Nat.add_assoc, skipWithin, skipSpace_blank_cons hw (by decide)]
  have hskip := hx (n + l) (.list :: opened) w' (cs ++ rest) hw' (he rest)
  rw [hcs] at hskip
  exact hskip

theorem skips_closeObject {w : List Char} (hw : Blank w) : SkipsMembers (w ++ ['\x7d']) := by
  refine ⟨1, by simp, ?_⟩
  intro n opened rest
  rw [List.append_assoc, List.singleton_append, skipWithin, skipSpace_blank_cons hw (by decide)]
  rfl

theorem skips_memberComma {w w' m cs : List Char} (hw : Blank w) (hw' : Blank w')
    (hm : SkipsMember m) (hcs : SkipsMembers cs) (he : ∀ rest, Ended (cs ++ rest)) :
    SkipsMembers (w ++ ',' :: (w' ++ (m ++ cs))) := by
  obtain ⟨k, hk, hm⟩ := hm
  obtain ⟨l, hl, hcs⟩ := hcs
  refine ⟨l + k + 1, by simp; omega, ?_⟩
  intro n opened rest
  simp only [List.cons_append, List.append_assoc]
  rw [← Nat.add_assoc, ← Nat.add_assoc, skipWithin, skipSpace_blank_cons hw (by decide)]
  obtain ⟨after, hkey, hskip⟩ := hm (n + l) (.object :: opened) w' (cs ++ rest) hw' (he rest)
  rw [hcs] at hskip
  simp [hkey, bind, Except.bind, hskip]

theorem skips_keyValue {key w w' x : List Char} (hk : RawChars key) (hw : Blank w) (hw' : Blank w')
    (hx : SkipsValue x) : SkipsMember ('"' :: (key ++ (w ++ ':' :: (w' ++ x)))) := by
  obtain ⟨k, hk', hx⟩ := hx
  refine ⟨k, by simp; omega, ?_⟩
  intro n opened u rest hu hr
  refine ⟨w' ++ (x ++ rest), ?_, hx n opened w' rest hw' hr⟩
  simp only [List.cons_append, List.append_assoc]
  unfold skipKey
  rw [skipSpace_blank_cons hu (by decide)]
  simp [skipChars_raw hk, bind, Except.bind,
    skipSpace_blank_cons hw (show isSpace ':' = false by decide)]

theorem ended_items {cs : List Char} (h : AnyItems cs) (rest : List Char) : Ended (cs ++ rest) := by
  cases h with
  | close hw => exact ended_punctuation hw (by decide) [] rest
  | comma hw _ _ _ => exact ended_punctuation hw (by decide) _ rest

theorem ended_members {cs : List Char} (h : AnyMembers cs) (rest : List Char) :
    Ended (cs ++ rest) := by
  cases h with
  | close hw => exact ended_punctuation hw (by decide) [] rest
  | comma hw _ _ _ => exact ended_punctuation hw (by decide) _ rest

theorem begins_member {m : List Char} (h : AnyMember m) : Begins m := by
  cases h with
  | member => exact begins_cons (by decide) (by decide) (by decide) _

mutual

theorem skips_value {cs : List Char} : AnyValue cs → SkipsValue cs
  | .null => skips_scalar (by decide) (by decide) (by decide) fun rest _ => rfl
  | .yes => skips_scalar (by decide) (by decide) (by decide) fun rest _ => rfl
  | .no => skips_scalar (by decide) (by decide) (by decide) fun rest _ => rfl
  | .number hn => skips_number hn
  | .string hs =>
    skips_scalar (by decide) (by decide) (by decide) fun rest _ => skipChars_raw hs rest
  | .emptyList hw => skips_emptyList hw
  | .list hw hx hcs =>
    skips_list hw (begins_any hx) (skips_value hx) (skips_items hcs) (ended_items hcs)
  | .emptyObject hw => skips_emptyObject hw
  | .object hw hm hcs =>
    skips_object hw (begins_member hm) (skips_member hm) (skips_members hcs) (ended_members hcs)

theorem skips_items {cs : List Char} : AnyItems cs → SkipsItems cs
  | .close hw => skips_closeList hw
  | .comma hw hw' hx hcs => skips_item hw hw' (skips_value hx) (skips_items hcs) (ended_items hcs)

theorem skips_member {m : List Char} : AnyMember m → SkipsMember m
  | .member hk hw hw' hx => skips_keyValue hk hw hw' (skips_value hx)

theorem skips_members {cs : List Char} : AnyMembers cs → SkipsMembers cs
  | .close hw => skips_closeObject hw
  | .comma hw hw' hm hcs =>
    skips_memberComma hw hw' (skips_member hm) (skips_members hcs) (ended_members hcs)

end

/-- Any value is passed over as a whole, however deep it nests. -/
theorem skipValue_any {w cs rest : List Char} (hw : Blank w) (h : AnyValue cs) (hr : Ended rest) :
    skipValue (w ++ (cs ++ rest)) = .ok rest := by
  obtain ⟨k, hk, hskip⟩ := skips_value h
  -- The length of the text is enough: `k` steps for the value, and one to find no open bracket.
  obtain ⟨n, hn⟩ : ∃ n, (w ++ (cs ++ rest)).length + 1 = n + 1 + k := by
    refine ⟨w.length + rest.length + (cs.length - k), ?_⟩
    simp only [List.length_append]
    omega
  rw [skipValue, hn, hskip (n + 1) [] w rest hw hr]
  rfl

end GraphBrowser.Json
