import GraphBrowser.Proofs.Json.Layout
import GraphBrowser.Json.Reader
import Mathlib.Data.List.Forall2

namespace GraphBrowser.Json

/-- The result of reading a text whose brackets go `depth` deep, with `levels` to be opened. -/
def within (levels depth : Nat) (result : α) : Except DecodeError α :=
  if depth ≤ levels then .ok result else .error .nestingTooDeep

@[simp]
theorem within_zero (levels : Nat) (result : α) : within levels 0 result = .ok result := by
  simp [within]

@[simp]
theorem within_succ (levels depth : Nat) (result : α) :
    within (levels + 1) (depth + 1) result = within levels depth result := by
  simp [within]

@[simp]
theorem within_map (levels depth : Nat) (result : α) (f : α → β) :
    (within levels depth result).map f = within levels depth (f result) := by
  unfold within
  split <;> rfl

theorem within_bind {levels d e : Nat} {x : α} {y : β} {f : α → Except DecodeError β}
    (h : f x = within levels e y) : (within levels d x >>= f) = within levels (max d e) y := by
  by_cases hd : d ≤ levels
  · have hx : within levels d x = .ok x := if_pos hd
    have hm : within levels (max d e) y = within levels e y := by
      simp only [within, Nat.max_le, hd, true_and]
    rw [hx, hm, ← h]
    rfl
  · have hx : within levels d x = .error .nestingTooDeep := if_neg hd
    have hm : within levels (max d e) y = .error .nestingTooDeep :=
      if_neg fun h => hd (Nat.le_trans (Nat.le_max_left d e) h)
    rw [hx, hm]
    rfl

theorem within_bind_ok {levels depth : Nat} {x : α} {y : β} {f : α → Except DecodeError β}
    (h : f x = .ok y) : (within levels depth x >>= f) = within levels depth y := by
  have hb := @within_bind _ _ levels depth 0 x y f (h.trans (within_zero levels y).symm)
  rwa [Nat.max_zero] at hb

/-- The reader takes each way to write `x` for `x`, whatever stands before and behind it, unless its
brackets go deeper than `levels`. -/
def Reads (levels : Nat) (reader : Reader α) (t : Writing) (x : α) : Prop :=
  ∀ ⦃depth cs⦄, t.Has depth cs → ∀ ⦃w rest⦄, Blank w → Ended rest →
    reader (w ++ (cs ++ rest)) = within levels depth (x, rest)

theorem Reads.mapped {levels : Nat} {reader : Reader α} {t : Writing} {x : α}
    (h : Reads levels reader t x) (f : α → β) :
    Reads levels (fun cs => (reader cs).map fun (x, rest) => (f x, rest)) t (f x) := by
  intro depth cs ht w rest hw hr
  simp only [h ht hw hr, within_map]

theorem ended_row {close : Char} (hclose : close = ']' ∨ close = '\x7d') {ts : List Writing}
    {d : Nat} {cs : List Char} (h : Row close false ts d cs) (rest : List Char) :
    Ended (cs ++ rest) := by
  have hc : close ∈ [',', ']', '\x7d', ' ', '\t', '\n', '\r'] := by
    rcases hclose with rfl | rfl <;> decide
  cases h with
  | close hw => exact ended_punctuation hw hc [] rest
  | comma hw _ _ _ => exact ended_punctuation hw (by decide) _ rest

theorem nextItem_close (first : Bool) {w : List Char} (hw : Blank w) (rest : List Char) :
    nextItem first (w ++ ']' :: rest) = .ok none := by
  unfold nextItem
  rw [skipSpace_blank_cons hw (by decide)]
  rfl

theorem nextItem_first {w cs : List Char} (hw : Blank w) (hc : Begins cs) (rest : List Char) :
    nextItem true (w ++ (cs ++ rest)) = .ok (some (cs ++ rest)) := by
  obtain ⟨c, cs, rfl, hs, hl, _⟩ := hc
  unfold nextItem
  rw [List.cons_append, skipSpace_blank_cons hw hs]
  split
  · rename_i h
    cases h
  · rename_i h
    exact absurd (List.cons.inj h).1 hl
  · rename_i h
    rw [if_pos rfl, h]

theorem nextItem_comma {w w' cs : List Char} (hw : Blank w) (hw' : Blank w') (hc : Begins cs)
    (rest : List Char) :
    nextItem false (w ++ ',' :: (w' ++ (cs ++ rest))) = .ok (some (cs ++ rest)) := by
  obtain ⟨c, cs, rfl, hs, hl, _⟩ := hc
  unfold nextItem
  rw [List.cons_append, skipSpace_blank_cons hw (by decide)]
  simp [skipSpace_blank_cons hw' hs, hl]

theorem closeList_close {w : List Char} (hw : Blank w) (rest : List Char) :
    closeList (w ++ ']' :: rest) = .ok rest := by
  unfold closeList
  rw [skipSpace_blank_cons hw (by decide)]
  rfl

theorem length_pos_of_begins {cs : List Char} (h : Begins cs) : 0 < cs.length := by
  obtain ⟨c, t, rfl, _⟩ := h
  exact Nat.succ_pos _

theorem row_item {first : Bool} {t : Writing} {ts : List Writing} {depth : Nat} {cs : List Char}
    (h : Row ']' first (t :: ts) depth cs) (rest : List Char) :
    ∃ d e x cs', depth = max d e ∧ t.Has d x ∧ Row ']' false ts e cs' ∧ cs'.length < cs.length ∧
      nextItem first (cs ++ rest) = .ok (some (x ++ (cs' ++ rest))) := by
  cases h with
  | @first _ _ d e w x cs hw ht hcs =>
    have hx := length_pos_of_begins (t.begins ht)
    refine ⟨d, e, x, cs, rfl, ht, hcs, by simp; omega, ?_⟩
    simp only [List.append_assoc]
    exact nextItem_first hw (t.begins ht) _
  | @comma _ _ d e w w' x cs hw hw' ht hcs =>
    refine ⟨d, e, x, cs, rfl, ht, hcs, by simp; omega, ?_⟩
    simp only [List.append_assoc, List.cons_append]
    exact nextItem_comma hw hw' (t.begins ht) _

theorem itemsWithin_close (item : Reader α) (first : Bool) (n : Nat) {w : List Char} (hw : Blank w)
    (rest : List Char) : itemsWithin item (n + 1) first (w ++ ']' :: rest) = .ok ([], rest) := by
  simp only [itemsWithin, nextItem_close first hw, closeList_close hw, bind, Except.bind, pure,
    Except.pure]

theorem itemsWithin_item {item : Reader α} {levels d e n : Nat} {first : Bool}
    {text cs rest tail : List Char} {x : α} {xs : List α}
    (hnext : nextItem first text = .ok (some cs)) (hitem : item cs = within levels d (x, rest))
    (hrest : itemsWithin item n false rest = within levels e (xs, tail)) :
    itemsWithin item (n + 1) first text = within levels (max d e) (x :: xs, tail) := by
  rw [itemsWithin, hnext]
  change (item cs >>= _) = _
  rw [hitem]
  apply within_bind
  change (itemsWithin item n false rest >>= _) = _
  rw [hrest]
  exact within_map levels e (xs, tail) fun p => (x :: p.1, p.2)

theorem itemsWithin_row {item : Reader α} {levels : Nat} {ts : List Writing} {xs : List α}
    (h : List.Forall₂ (Reads levels item) ts xs) {first : Bool} {depth : Nat} {cs : List Char}
    (hc : Row ']' first ts depth cs) (rest : List Char) {n : Nat} (hn : cs.length < n) :
    itemsWithin item n first (cs ++ rest) = within levels depth (xs, rest) := by
  -- The bound stays above the length of what is left of the row, as each item has characters.
  induction h generalizing first depth cs n with
  | nil =>
    cases hc with
    | close hw =>
      obtain ⟨n, rfl⟩ := Nat.exists_eq_add_one_of_ne_zero (n := n) (by omega)
      rw [List.append_assoc, within_zero]
      exact itemsWithin_close item first n hw rest
  | cons hx _ ih =>
    obtain ⟨d, e, x, cs', rfl, ht, hcs, hlen, hnext⟩ := row_item hc rest
    obtain ⟨n, rfl⟩ := Nat.exists_eq_add_one_of_ne_zero (n := n) (by omega)
    exact itemsWithin_item hnext (hx ht blank_nil (ended_row (.inl rfl) hcs rest))
      (ih hcs (by omega))

theorem items_row {item : Reader α} {levels : Nat} {ts : List Writing} {xs : List α}
    (h : List.Forall₂ (Reads levels item) ts xs) {depth : Nat} {cs : List Char}
    (hc : Row ']' true ts depth cs) (rest : List Char) :
    items item (cs ++ rest) = within levels depth (xs, rest) :=
  itemsWithin_row h hc rest (by simp only [List.length_append]; omega)

theorem reads_string (levels : Nat) (s : String) : Reads levels stringReader (.string s) s := by
  rintro _ _ ⟨rfl, body, hb, rfl⟩ w rest hw _
  unfold stringReader
  rw [List.cons_append, skipSpace_blank_cons hw (by decide), within_zero]
  exact readString_text hb rest

theorem reads_bool (levels : Nat) (b : Bool) : Reads levels boolReader (.bool b) b := by
  cases b with
  | true | false =>
    rintro _ _ ⟨rfl, rfl⟩ w rest hw _
    unfold boolReader
    simp only [List.cons_append]
    rw [skipSpace_blank_cons hw (by decide), within_zero]
    rfl

theorem readScalar_number {c : Char} (hc : c = '-' ∨ isDigit c = true) (cs : List Char) :
    readScalar (c :: cs) = (readNumber (c :: cs)).map fun p => (.number p.1, p.2) := by
  have hne := (number_char hc).2
  simp only [List.mem_cons, not_or] at hne
  have hb : (decide (c = '-') || isDigit c) = true := by simpa using hc
  unfold readScalar
  split
  · rename_i h
    cases h
  · rename_i h
    exact absurd (List.cons.inj h).1 hne.1
  · rename_i h
    exact absurd (List.cons.inj h).1 hne.2.1
  · rename_i h
    exact absurd (List.cons.inj h).1 hne.2.2.1
  · rename_i h
    exact absurd (List.cons.inj h).1 hne.2.2.2.1
  · rename_i h
    obtain ⟨rfl, rfl⟩ := List.cons.inj h
    rw [if_pos hb]

theorem readScalar_intText {n : Int} (hlow : -2 ^ 63 ≤ n) (hhigh : n < 2 ^ 64) {rest : List Char}
    (hr : Ended rest) : readScalar (intText n ++ rest) = .ok (.number (.int n), rest) := by
  have hn := readNumber_intText hlow hhigh hr
  obtain ⟨c, cs, ht, hc⟩ := number_head (numberText_int n)
  rw [ht, List.cons_append] at hn ⊢
  rw [readScalar_number hc, hn]
  rfl

theorem reads_nat (levels : Nat) {limit n : Nat} (hn : n < limit) (hl : limit ≤ 2 ^ 64)
    (expected : Expected) : Reads levels (natReader limit expected) (.int n) n := by
  rintro _ _ ⟨rfl, rfl⟩ w rest hw hr
  have hs := readScalar_intText (n := n) (by omega) (by omega) hr
  obtain ⟨c, cs, ht, hc, _⟩ := begins_number (numberText_int n)
  unfold natReader
  rw [ht, List.cons_append] at hs ⊢
  simp only [skipSpace_blank_cons hw hc, hs, within_zero]
  have hb : 0 ≤ (n : Int) ∧ (n : Int) < limit := by omega
  rw [if_pos hb]
  rfl

theorem reads_word32 (levels : Nat) (x : UInt32) :
    Reads levels word32Reader (.int x.toNat) x := by
  have hn : x.toNat < UInt32.size := x.toNat_lt
  have hx := (reads_nat levels hn (by decide) .word32).mapped UInt32.ofNat
  rwa [UInt32.ofNat_toNat] at hx

theorem reads_word64 (levels : Nat) (x : UInt64) :
    Reads levels word64Reader (.int x.toNat) x := by
  have hn : x.toNat < UInt64.size := x.toNat_lt
  have hx := (reads_nat levels hn (by decide) .word64).mapped UInt64.ofNat
  rwa [UInt64.ofNat_toNat] at hx

theorem reads_list {item : Reader α} {levels : Nat} {ts : List Writing} {xs : List α}
    (h : List.Forall₂ (Reads levels item) ts xs) :
    Reads (levels + 1) (listReader (some item)) (.list ts) xs := by
  rintro _ _ ⟨d, body, hrow, rfl, rfl⟩ w rest hw _
  unfold listReader
  rw [List.cons_append, skipSpace_blank_cons hw (by decide), within_succ]
  exact items_row h hrow rest

theorem reads_list_none (ts : List Writing) (xs : List α) :
    Reads 0 (listReader none) (.list ts) xs := by
  rintro _ _ ⟨d, body, _, rfl, rfl⟩ w rest hw _
  unfold listReader
  rw [List.cons_append, skipSpace_blank_cons hw (by decide)]
  rfl

theorem nextKey_close (first : Bool) {w : List Char} (hw : Blank w) (rest : List Char) :
    nextKey first (w ++ '\x7d' :: rest) = .ok none := by
  unfold nextKey
  rw [skipSpace_blank_cons hw (by decide)]
  rfl

theorem closeObject_close {w : List Char} (hw : Blank w) (rest : List Char) :
    closeObject (w ++ '\x7d' :: rest) = rest := by
  rw [closeObject, skipSpace_blank_cons hw (by decide)]
  rfl

theorem readColon_colon {w : List Char} (hw : Blank w) (rest : List Char) :
    readColon (w ++ ':' :: rest) = .ok rest := by
  unfold readColon
  rw [skipSpace_blank_cons hw (by decide)]
  rfl

theorem nextKey_first {key : String} {w k : List Char} (hw : Blank w)
    (hk : CharsText key.toList k) (rest : List Char) :
    nextKey true (w ++ '"' :: (k ++ rest)) = .ok (some (key, rest)) := by
  unfold nextKey
  rw [skipSpace_blank_cons hw (by decide)]
  change (readString (k ++ rest)).map some = _
  rw [readString_text hk]
  rfl

theorem nextKey_comma {key : String} {w w' k : List Char} (hw : Blank w) (hw' : Blank w')
    (hk : CharsText key.toList k) (rest : List Char) :
    nextKey false (w ++ ',' :: (w' ++ '"' :: (k ++ rest))) = .ok (some (key, rest)) := by
  unfold nextKey
  rw [skipSpace_blank_cons hw (by decide)]
  simp only [Char.reduceEq, Bool.false_eq_true, imp_false, not_false_eq_true, if_false, if_true,
    skipSpace_blank_cons hw' (show isSpace '"' = false by decide), readString_text hk]
  rfl

theorem row_member {first : Bool} {key : String} {t : Writing} {ts : List Writing} {depth : Nat}
    {cs : List Char} (h : Row '\x7d' first (.member key t :: ts) depth cs) (rest : List Char) :
    ∃ d e after w x cs', depth = max d e ∧ t.Has d x ∧ Blank w ∧ Row '\x7d' false ts e cs' ∧
      cs'.length < cs.length ∧ nextKey first (cs ++ rest) = .ok (some (key, after)) ∧
      readColon after = .ok (w ++ (x ++ (cs' ++ rest))) := by
  cases h with
  | @first _ _ d e w _ cs hw ht hcs =>
    obtain ⟨k, u, w', x, hk, hu, hw', hx, rfl⟩ := ht
    refine ⟨d, e, _, w', x, cs, rfl, hx, hw', hcs, by simp; omega, ?_, readColon_colon hu _⟩
    simp only [List.append_assoc, List.cons_append]
    exact nextKey_first hw hk _
  | @comma _ _ d e w w₁ _ cs hw hw₁ ht hcs =>
    obtain ⟨k, u, w', x, hk, hu, hw', hx, rfl⟩ := ht
    refine ⟨d, e, _, w', x, cs, rfl, hx, hw', hcs, by simp; omega, ?_, readColon_colon hu _⟩
    simp only [List.append_assoc, List.cons_append]
    exact nextKey_comma hw hw₁ hk _

def ReadsMember (levels : Nat) (value : Reader α) (t : Writing) (m : String × α) : Prop :=
  ∃ u, t = .member m.1 u ∧ Reads levels value u m.2

theorem membersWithin_close (value : Reader α) (first : Bool) (n : Nat) {w : List Char}
    (hw : Blank w) (rest : List Char) :
    membersWithin value (n + 1) first (w ++ '\x7d' :: rest) = .ok ([], rest) := by
  simp only [membersWithin, nextKey_close first hw, closeObject_close hw, bind, Except.bind, pure,
    Except.pure]

theorem membersWithin_member {value : Reader α} {levels d e n : Nat} {first : Bool} {key : String}
    {text after cs rest tail : List Char} {x : α} {ms : List (String × α)}
    (hnext : nextKey first text = .ok (some (key, after))) (hcolon : readColon after = .ok cs)
    (hvalue : value cs = within levels d (x, rest))
    (hrest : membersWithin value n false rest = within levels e (ms, tail)) :
    membersWithin value (n + 1) first text = within levels (max d e) ((key, x) :: ms, tail) := by
  rw [membersWithin, hnext]
  change (readColon after >>= fun cs => value cs >>= _) = _
  rw [hcolon]
  change (value cs >>= _) = _
  rw [hvalue]
  apply within_bind
  change (membersWithin value n false rest >>= _) = _
  rw [hrest]
  exact within_map levels e (ms, tail) fun p => ((key, x) :: p.1, p.2)

theorem membersWithin_row {value : Reader α} {levels : Nat} {ts : List Writing}
    {ms : List (String × α)} (h : List.Forall₂ (ReadsMember levels value) ts ms) {first : Bool}
    {depth : Nat} {cs : List Char} (hc : Row '\x7d' first ts depth cs) (rest : List Char) {n : Nat}
    (hn : cs.length < n) :
    membersWithin value n first (cs ++ rest) = within levels depth (ms, rest) := by
  induction h generalizing first depth cs n with
  | nil =>
    cases hc with
    | close hw =>
      obtain ⟨n, rfl⟩ := Nat.exists_eq_add_one_of_ne_zero (n := n) (by omega)
      rw [List.append_assoc, within_zero]
      exact membersWithin_close value first n hw rest
  | cons hm _ ih =>
    obtain ⟨u, rfl, hu⟩ := hm
    obtain ⟨d, e, after, w, x, cs', rfl, hx, hw, hcs, hlen, hnext, hcolon⟩ := row_member hc rest
    obtain ⟨n, rfl⟩ := Nat.exists_eq_add_one_of_ne_zero (n := n) (by omega)
    exact membersWithin_member hnext hcolon (hu hx hw (ended_row (.inr rfl) hcs rest))
      (ih hcs (by omega))

theorem members_row {value : Reader α} {levels : Nat} {ts : List Writing} {ms : List (String × α)}
    (h : List.Forall₂ (ReadsMember levels value) ts ms) {depth : Nat} {cs : List Char}
    (hc : Row '\x7d' true ts depth cs) (rest : List Char) :
    members value (cs ++ rest) = within levels depth (ms, rest) :=
  membersWithin_row h hc rest (by simp only [List.length_append]; omega)

theorem reads_map {value : Reader α} {levels : Nat} {ts : List Writing} {ms : List (String × α)}
    (h : List.Forall₂ (ReadsMember levels value) ts ms) :
    Reads (levels + 1) (mapReader (some value)) (.object ts) ms := by
  rintro _ _ ⟨d, body, hrow, rfl, rfl⟩ w rest hw _
  unfold mapReader
  rw [List.cons_append, skipSpace_blank_cons hw (by decide), within_succ]
  exact members_row h hrow rest

theorem reads_map_none (ts : List Writing) (ms : List (String × α)) :
    Reads 0 (mapReader none) (.object ts) ms := by
  rintro _ _ ⟨d, body, _, rfl, rfl⟩ w rest hw _
  unfold mapReader
  rw [List.cons_append, skipSpace_blank_cons hw (by decide)]
  rfl

/-- A whole text in which something is written, with white space around it. -/
def Writing.Text (t : Writing) (depth : Nat) (s : String) : Prop :=
  ∃ w x w', Blank w ∧ t.Has depth x ∧ Blank w' ∧ s.toList = w ++ (x ++ w')

theorem readText_text {reader : Reader α} {levels depth : Nat} {t : Writing} {x : α} {s : String}
    (h : Reads levels reader t x) (hs : t.Text depth s) :
    readText reader s = within levels depth x := by
  obtain ⟨w, text, w', hw, ht, hw', hs⟩ := hs
  have hend : Ended w' := by
    rw [← List.append_nil w']
    exact ended_blank hw' ended_nil
  have hspace : skipSpace w' = [] := by
    rw [← List.append_nil w', skipSpace_blank hw']
    rfl
  unfold readText
  rw [hs, h ht hw hend]
  apply within_bind_ok
  simp only [hspace]
  rfl

theorem readText_ok {reader : Reader α} {levels depth : Nat} {t : Writing} {x : α} {s : String}
    (h : Reads levels reader t x) (hdepth : depth ≤ levels) (hs : t.Text depth s) :
    readText reader s = .ok x :=
  (readText_text h hs).trans (if_pos hdepth)

end GraphBrowser.Json
