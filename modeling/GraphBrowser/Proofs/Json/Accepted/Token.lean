import GraphBrowser.Proofs.Json.Brackets

namespace GraphBrowser.Json

variable {cs ds rest : List Char}

theorem blank_of_skipSpace (h : skipSpace cs = ds) : ∃ w, Blank w ∧ cs = w ++ ds := by
  refine ⟨cs.takeWhile isSpace, ?_, ?_⟩
  · intro c hc
    have hspace := List.all_eq_true.mp List.all_takeWhile c hc
    simpa [isSpace, or_assoc] using hspace
  · rw [← h]
    exact List.takeWhile_append_dropWhile.symm

theorem hex_of_digitValue {c : Char} {value : Nat} (h : Text.digitValue? c = some value) :
    IsHex c value := by
  have hall : ∀ n < 128, ∀ v ∈ Text.digitValue? (Char.ofNat n), v < 16 ∧
      (Char.ofNat n = Nat.digitChar v ∨ Char.ofNat n = (Nat.digitChar v).toUpper) := by decide
  have hascii : c.toNat < 128 := by
    have hbound : c ≤ '9' ∨ c ≤ 'f' ∨ c ≤ 'F' := by
      unfold Text.digitValue? at h
      split at h
      · exact .inl (And.right ‹_›)
      · split at h
        · exact .inr (.inl (And.right ‹_›))
        · split at h
          · exact .inr (.inr (And.right ‹_›))
          · cases h
    rcases hbound with hle | hle | hle <;> exact Nat.lt_of_le_of_lt hle (by decide)
  have hdigit := hall c.toNat hascii value
  rw [Char.ofNat_toNat] at hdigit
  exact hdigit h

theorem hex4_of_digits {a b c d : Char} {n : Nat} (h : hex4? a b c d = some n) :
    Hex4 [a, b, c, d] n ∧ n < 0x10000 := by
  simp only [hex4?, Option.bind_eq_bind, Option.bind_eq_some_iff] at h
  obtain ⟨p, ha, q, hb, r, hc, s, hd, hn⟩ := h
  have hp := hex_of_digitValue ha
  have hq := hex_of_digitValue hb
  have hr := hex_of_digitValue hc
  have hs := hex_of_digitValue hd
  obtain rfl : ((p * 16 + q) * 16 + r) * 16 + s = n := by
    have hsum := Option.some.inj hn
    omega
  obtain ⟨hp16, -⟩ := id hp
  obtain ⟨hq16, -⟩ := id hq
  obtain ⟨hr16, -⟩ := id hr
  obtain ⟨hs16, -⟩ := id hs
  exact ⟨.digits hp hq hr hs, by omega⟩

theorem mem_shortEscapes {letter c : Char} (h : shortEscape? letter = some c) :
    (letter, c) ∈ shortEscapes := by
  unfold shortEscape? at h
  repeat' split at h
  all_goals cases h <;> subst_vars <;> decide

theorem toNat_ofNat {n : Nat} (h : n.isValidChar) : (Char.ofNat n).toNat = n := by
  rw [Char.ofNat, dif_pos h]
  rfl

theorem toNat_ofNat_of_plain {n : Nat} (hn : n < 0x10000) (hlow : ¬ isLowSurrogate n = true)
    (hhigh : ¬ isHighSurrogate n = true) : (Char.ofNat n).toNat = n := by
  have hvalid : n.isValidChar := by
    simp only [isLowSurrogate, isHighSurrogate, Bool.and_eq_true, decide_eq_true_eq] at hlow hhigh
    unfold Nat.isValidChar
    omega
  exact toNat_ofNat hvalid

theorem char_hex {a b c d : Char} {n : Nat} (h : hex4? a b c d = some n)
    (hlow : ¬ isLowSurrogate n = true) (hhigh : ¬ isHighSurrogate n = true) :
    CharText (Char.ofNat n) ['\\', 'u', a, b, c, d] := by
  obtain ⟨hdigits, hn⟩ := hex4_of_digits h
  rw [← toNat_ofNat_of_plain hn hlow hhigh] at hdigits
  exact .hex hdigits

theorem char_pair {a b c d e f g h : Char} {n m : Nat} (hn : hex4? a b c d = some n)
    (hm : hex4? e f g h = some m) (hhigh : isHighSurrogate n = true)
    (hlow : isLowSurrogate m = true) :
    CharText (surrogatePair n m) ['\\', 'u', a, b, c, d, '\\', 'u', e, f, g, h] := by
  obtain ⟨hdigits, -⟩ := hex4_of_digits hn
  obtain ⟨hdigits', -⟩ := hex4_of_digits hm
  simp only [isHighSurrogate, isLowSurrogate, Bool.and_eq_true, decide_eq_true_eq] at hhigh hlow
  obtain ⟨high, rfl⟩ := Nat.exists_eq_add_of_le hhigh.1
  obtain ⟨low, rfl⟩ := Nat.exists_eq_add_of_le hlow.1
  have hc : (surrogatePair (0xd800 + high) (0xdc00 + low)).toNat = 0x10000 + high * 0x400 + low := by
    have hvalid : (0x10000 + high * 0x400 + low).isValidChar := by
      unfold Nat.isValidChar
      omega
    rw [surrogatePair, Nat.add_sub_cancel_left, Nat.add_sub_cancel_left, toNat_ofNat hvalid]
  exact .pair hdigits hdigits' (by omega) (by omega) hc

theorem charsText_cons {c : Char} {x s : List Char} {r : Except DecodeError (List Char × List Char)}
    (hc : CharText c x)
    (hr : ∀ s, r = .ok (s, rest) → ∃ body, CharsText s body ∧ ds = body ++ rest)
    (h : consChar c r = .ok (s, rest)) : ∃ body, CharsText s body ∧ x ++ ds = body ++ rest := by
  obtain ⟨s', hs, rfl⟩ := consChar_eq_ok h
  obtain ⟨body, hbody, rfl⟩ := hr s' hs
  exact ⟨x ++ body, .char hc hbody, (List.append_assoc x body rest).symm⟩

theorem charsText_of_read {s : List Char} (h : readChars cs = .ok (s, rest)) :
    ∃ body, CharsText s body ∧ cs = body ++ rest := by
  fun_induction readChars cs generalizing s with
  | case5 a b c d n hn _ hhigh e f g h' tail m hm hlow ih =>
    exact charsText_cons (char_pair hn hm hhigh hlow) (fun _ => ih) h
  | case11 a b c d tail n hn hlow hhigh ih =>
    exact charsText_cons (char_hex hn hlow hhigh) (fun _ => ih) h
  | case15 c tail _ _ e he ih => exact charsText_cons (.short (mem_shortEscapes he)) (fun _ => ih) h
  | case16 =>
    cases h
    exact ⟨['"'], .quote, rfl⟩
  | case18 c tail _ _ hnil hcons hq hcontrol ih =>
    exact charsText_cons (.plain (Nat.not_lt.mp hcontrol) hq (ne_backslash hnil hcons)) (fun _ => ih) h
  | _ => cases h

theorem stringText_of_read {s : String} (h : readString cs = .ok (s, rest)) :
    ∃ body, CharsText s.toList body ∧ cs = body ++ rest := by
  obtain ⟨⟨chars, rest'⟩, hread, heq⟩ := map_eq_ok.mp h
  cases heq
  rw [String.toList_ofList]
  exact charsText_of_read hread

theorem digits_of_read {ns : List Nat} (h : readDigits1 cs = .ok (ns, rest)) :
    ∃ ds, Digits ds ∧ ns = ds.map digitValue ∧ cs = ds ++ rest := by
  unfold readDigits1 at h
  split at h
  · cases h
  · rename_i c cs
    split at h
    · rename_i hc
      cases h
      refine ⟨_, ⟨?_, fun d hd => List.all_eq_true.mp List.all_takeWhile d hd⟩, rfl,
        List.takeWhile_append_dropWhile.symm⟩
      rw [List.takeWhile_cons, if_pos hc]
      exact List.cons_ne_nil _ _
    · cases h

theorem whole_of_read {ns : List Nat} (h : readWhole cs = .ok (ns, rest)) :
    ∃ ws, WholeText ws ∧ ns = ws.map digitValue ∧ cs = ws ++ rest := by
  unfold readWhole at h
  split at h
  · split at h
    · cases h
    · cases h
      exact ⟨['0'], .inl rfl, rfl, rfl⟩
  · rename_i hzero
    obtain ⟨ds, hds, hns, rfl⟩ := digits_of_read h
    refine ⟨ds, ?_, hns, rfl⟩
    -- A zero with a digit behind it is refused, so a zero in front is all there is.
    obtain ⟨d, ds, rfl⟩ := List.exists_cons_of_ne_nil hds.1
    by_cases hd : d = '0'
    · subst hd
      cases ds with
      | nil => exact .inl rfl
      | cons e ds => exact (hzero e (ds ++ rest) rfl).elim
    · exact .inr ⟨hds, fun hhead => hd (Option.some.inj hhead)⟩

theorem fraction_of_read {ns : Option (List Nat)} (h : readFraction cs = .ok (ns, rest)) :
    ∃ fs, FractionText fs ∧ ns = fractionDigits fs ∧ cs = fs ++ rest := by
  unfold readFraction at h
  split at h
  · obtain ⟨⟨ns, rest'⟩, hread, heq⟩ := map_eq_ok.mp h
    cases heq
    obtain ⟨ds, hds, rfl, rfl⟩ := digits_of_read hread
    exact ⟨'.' :: ds, .point hds, rfl, rfl⟩
  · cases h
    exact ⟨[], .none, rfl, rfl⟩

theorem exponent_of_read {ns : Option (Bool × List Nat)} (h : readExponent cs = .ok (ns, rest)) :
    ∃ es, ExponentText es ∧ ns = exponentDigits es ∧ cs = es ++ rest := by
  have hdigits : ∀ {negative : Bool} {ds : List Char},
      (readDigits1 ds).map (fun p => (some (negative, p.1), p.2)) = .ok (ns, rest) →
        ∃ es, Digits es ∧ ns = some (negative, es.map digitValue) ∧ ds = es ++ rest := by
    intro negative ds hd
    obtain ⟨⟨ns', rest'⟩, hread, heq⟩ := map_eq_ok.mp hd
    cases heq
    obtain ⟨es, hes, rfl, rfl⟩ := digits_of_read hread
    exact ⟨es, hes, rfl, rfl⟩
  unfold readExponent at h
  dsimp only at h
  split at h
  · rename_i e cs
    split at h
    · rename_i hE
      simp only [Bool.or_eq_true, decide_eq_true_eq] at hE
      split at h
      · obtain ⟨es, hes, rfl, rfl⟩ := hdigits h
        exact ⟨e :: '+' :: es, .signed hE (.inl rfl) hes, rfl, rfl⟩
      · obtain ⟨es, hes, rfl, rfl⟩ := hdigits h
        exact ⟨e :: '-' :: es, .signed hE (.inr rfl) hes, rfl, rfl⟩
      · rename_i hplus hminus
        obtain ⟨es, hes, rfl, rfl⟩ := hdigits h
        refine ⟨e :: es, .unsigned hE hes, ?_, rfl⟩
        rw [exponentDigits]
        · rintro ds ⟨⟩
          exact hplus _ rfl
        · rintro ds ⟨⟩
          exact hminus _ rfl
    · cases h
      exact ⟨[], .none, rfl, rfl⟩
  · cases h
    exact ⟨[], .none, rfl, rfl⟩

theorem spelled_of_read {spelling : Spelling} (h : readSpelling cs = .ok (spelling, rest)) :
    ∃ x, Spelled x spelling ∧ cs = x ++ rest := by
  unfold readSpelling at h
  split at h
  rename_i negative ds hsign
  have hcs : cs = signText negative ++ ds := by
    split at hsign <;> cases hsign <;> rfl
  obtain ⟨⟨whole, es⟩, hwhole, h⟩ := bind_eq_ok.mp h
  obtain ⟨⟨fraction, fs⟩, hfraction, h⟩ := bind_eq_ok.mp h
  obtain ⟨⟨exponent, gs⟩, hexponent, h⟩ := bind_eq_ok.mp h
  cases h
  obtain ⟨ws, hws, rfl, rfl⟩ := whole_of_read hwhole
  obtain ⟨fs, hfs, rfl, rfl⟩ := fraction_of_read hfraction
  obtain ⟨es, hes, rfl, rfl⟩ := exponent_of_read hexponent
  refine ⟨_, .parts hws hfs hes, ?_⟩
  simp only [hcs, List.append_assoc]

end GraphBrowser.Json
