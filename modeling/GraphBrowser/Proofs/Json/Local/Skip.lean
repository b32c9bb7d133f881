import GraphBrowser.Proofs.Json.Accepted.Token
import GraphBrowser.Proofs.Json.Skip

namespace GraphBrowser.Json

variable {cs ds rest more : List Char}

theorem skipSpace_append {c : Char} (h : skipSpace cs = c :: ds) (more : List Char) :
    skipSpace (cs ++ more) = c :: (ds ++ more) := by
  unfold skipSpace at h ⊢
  rw [List.dropWhile_append, h]
  rfl

theorem ended_of_skipSpace {c : Char} (h : skipSpace cs = c :: ds)
    (hc : c ∈ [',', ']', '\x7d', ' ', '\t', '\n', '\r']) (more : List Char) : Ended (cs ++ more) := by
  obtain ⟨w, hw, rfl⟩ := blank_of_skipSpace h
  exact ended_punctuation hw hc ds more

theorem readWord_append {ws : List Char} (h : readWord ws cs = .ok rest) (more : List Char) :
    readWord ws (cs ++ more) = .ok (rest ++ more) := by
  rw [readWord_eq_ok h, List.append_assoc]
  clear h
  induction ws with
  | nil => rfl
  | cons w ws ih => rw [List.cons_append, readWord, if_pos rfl, ih]

theorem rawChars_of_skip (h : skipChars cs = .ok rest) : ∃ text, RawChars text ∧ cs = text ++ rest := by
  fun_induction skipChars cs with
  | case2 a b c d tail hm ih =>
    obtain ⟨n, hn⟩ := Option.isSome_iff_exists.mp hm
    obtain ⟨text, htext, rfl⟩ := ih h
    exact ⟨_, .hex (hex4_of_digits hn).1 htext, rfl⟩
  | case6 c tail _ _ hshort ih =>
    obtain ⟨e, he⟩ := Option.isSome_iff_exists.mp hshort
    obtain ⟨text, htext, rfl⟩ := ih h
    exact ⟨_, .short (mem_shortEscapes he) htext, rfl⟩
  | case8 =>
    cases h
    exact ⟨['"'], .quote, rfl⟩
  | case10 c tail _ _ hnil hcons hq hcontrol ih =>
    obtain ⟨text, htext, rfl⟩ := ih h
    exact ⟨c :: text, .plain (Nat.not_lt.mp hcontrol) hq (ne_backslash hnil hcons) htext, rfl⟩
  | _ => cases h

theorem skipChars_append (h : skipChars cs = .ok rest) (more : List Char) :
    skipChars (cs ++ more) = .ok (rest ++ more) := by
  obtain ⟨text, htext, rfl⟩ := rawChars_of_skip h
  rw [List.append_assoc]
  exact skipChars_raw htext (rest ++ more)

theorem number_of_skip (h : skipNumber cs = .ok rest) :
    ∃ text, NumberText text ∧ cs = text ++ rest := by
  unfold skipNumber at h
  split at h
  · rename_i hread
    cases h
    obtain ⟨text, htext, hcs⟩ := spelled_of_read hread
    exact ⟨text, htext.number, hcs⟩
  · cases h

theorem skipScalar_append (h : skipScalar cs = .ok rest) (hmore : Ended (rest ++ more)) :
    skipScalar (cs ++ more) = .ok (rest ++ more) := by
  unfold skipScalar at h
  split at h
  · cases h
  · exact readWord_append h more
  · exact readWord_append h more
  · exact readWord_append h more
  · exact skipChars_append h more
  · split at h
    · obtain ⟨text, htext, hcs⟩ := number_of_skip h
      obtain ⟨d, t, rfl, hd⟩ := number_head htext
      rw [hcs, List.append_assoc]
      exact skipScalar_number htext hd hmore
    · cases h

theorem skipKey_append (h : skipKey cs = .ok rest) (more : List Char) :
    skipKey (cs ++ more) = .ok (rest ++ more) := by
  unfold skipKey at h
  split at h
  · cases h
  · rename_i ds hquote
    obtain ⟨es, hchars, h⟩ := bind_eq_ok.mp h
    split at h
    · cases h
    · rename_i hcolon
      cases h
      unfold skipKey
      rw [skipSpace_append hquote more]
      simp only [skipChars_append hchars more, bind, Except.bind, skipSpace_append hcolon more]
    · cases h
  · cases h

theorem ended_of_skipWithin {n : Nat} {opened : List Bracket}
    (h : skipWithin n true opened cs = .ok rest) (hmore : Ended (rest ++ more)) :
    Ended (cs ++ more) := by
  match n, opened with
  | 0, _ => cases h
  | _ + 1, [] =>
    cases h
    exact hmore
  | _ + 1, .list :: _ | _ + 1, .object :: _ =>
    rw [skipWithin] at h
    split at h
    · cases h
    · rename_i hclose
      exact ended_of_skipSpace hclose (by decide) more
    · rename_i hcomma
      exact ended_of_skipSpace hcomma (by decide) more
    · cases h

theorem skipWithin_append {n : Nat} {after : Bool} {opened : List Bracket}
    (h : skipWithin n after opened cs = .ok rest) (hmore : Ended (rest ++ more)) {m : Nat}
    (hm : n ≤ m) : skipWithin m after opened (cs ++ more) = .ok (rest ++ more) := by
  -- The larger bound exceeds the smaller one by the same number at every step.
  obtain ⟨k, rfl⟩ := Nat.exists_eq_add_of_le hm
  clear hm
  fun_induction skipWithin n after opened cs with
  | case3 n opened cs ds hopen es hclose ih =>
    simp only [Nat.succ_add, skipWithin, skipSpace_append hopen more, skipSpace_append hclose more]
    exact ih h
  | case4 n opened cs ds hopen hne hclose ih =>
    obtain ⟨c, es, hspace⟩ := List.exists_cons_of_ne_nil hne
    have hc : c ≠ ']' := by
      rintro rfl
      exact hclose es hspace
    have hrest := ih h
    rw [hspace] at hrest
    simpa [Nat.succ_add, skipWithin, skipSpace_append hopen more, skipSpace_append hspace more, hc]
      using hrest
  | case6 n opened cs ds hopen es hclose ih =>
    simp only [Nat.succ_add, skipWithin, skipSpace_append hopen more, skipSpace_append hclose more]
    exact ih h
  | case7 n opened cs ds hopen hne hclose ih =>
    obtain ⟨es, hkey, h⟩ := bind_eq_ok.mp h
    obtain ⟨c, fs, hspace⟩ := List.exists_cons_of_ne_nil hne
    have hc : c ≠ '\x7d' := by
      rintro rfl
      exact hclose fs hspace
    have hkey' := skipKey_append hkey more
    have hrest := ih es h
    rw [hspace, List.cons_append] at hkey'
    simpa [Nat.succ_add, skipWithin, skipSpace_append hopen more, skipSpace_append hspace more, hc,
      hkey', bind, Except.bind] using hrest
  | case8 n opened cs hlist hobject ih =>
    obtain ⟨es, hscalar, h⟩ := bind_eq_ok.mp h
    obtain ⟨c, fs, hspace⟩ : ∃ c fs, skipSpace cs = c :: fs := by
      refine List.exists_cons_of_ne_nil fun hnil => ?_
      rw [hnil] at hscalar
      cases hscalar
    have hc : c ≠ '[' ∧ c ≠ '\x7b' := by
      refine ⟨?_, ?_⟩ <;> rintro rfl
      · exact hlist fs hspace
      · exact hobject fs hspace
    have hscalar' := skipScalar_append hscalar (ended_of_skipWithin h hmore)
    have hrest := ih es h
    rw [hspace, List.cons_append] at hscalar'
    simpa [Nat.succ_add, skipWithin, skipSpace_append hspace more, hc, hscalar', bind, Except.bind]
      using hrest
  | case9 n cs =>
    cases h
    rw [Nat.succ_add, skipWithin]
  | case11 n opened cs ds hclose ih =>
    simp only [Nat.succ_add, skipWithin, skipSpace_append hclose more]
    exact ih h
  | case12 n opened cs ds hcomma ih =>
    simp only [Nat.succ_add, skipWithin, skipSpace_append hcomma more]
    exact ih h
  | case15 n opened cs ds hclose ih =>
    simp only [Nat.succ_add, skipWithin, skipSpace_append hclose more]
    exact ih h
  | case16 n opened cs ds hcomma ih =>
    obtain ⟨es, hkey, h⟩ := bind_eq_ok.mp h
    simp only [Nat.succ_add, skipWithin, skipSpace_append hcomma more, skipKey_append hkey more]
    exact ih es h
  | _ => cases h

theorem skipValue_append (h : skipValue cs = .ok rest) (hmore : Ended (rest ++ more)) :
    skipValue (cs ++ more) = .ok (rest ++ more) :=
  skipWithin_append h hmore (by simp)

end GraphBrowser.Json
