import GraphBrowser.Proofs.Json.Accepted.Items
import GraphBrowser.Proofs.Json.Verbatim

namespace GraphBrowser.Json

variable {α β : Type} {levels : Nat} {cs ds rest : List Char}

/-- Whatever the reader takes is the value of something, and this is written behind white space. -/
def Takes (levels : Nat) (reader : Reader α) (writing : β → Writing) (value : β → α) : Prop :=
  ∀ ⦃cs x rest⦄, reader cs = .ok (x, rest) → ∃ b d w text, value b = x ∧ d ≤ levels ∧ Blank w ∧
    (writing b).Has d text ∧ cs = w ++ (text ++ rest)

/-- What stands in front of an item: white space, and a comma if another item is before it. -/
inductive Leads : Bool → List Char → List Char → Prop
  | first {w ds : List Char} : Blank w → Leads true (w ++ ds) ds
  | comma {w w' ds : List Char} : Blank w → Blank w' → Leads false (w ++ ',' :: (w' ++ ds)) ds

theorem blank_append {w v : List Char} (hw : Blank w) (hv : Blank v) : Blank (w ++ v) := by
  intro c hc
  exact (List.mem_append.mp hc).elim (hw c) (hv c)

theorem row_of_leads {first : Bool} {close : Char} {t : Writing} {ts : List Writing} {d e : Nat}
    {v text body : List Char} (h : Leads first cs (v ++ (text ++ (body ++ rest)))) (hv : Blank v)
    (ht : t.Has d text) (hrow : Row close false ts e body) :
    ∃ row, Row close first (t :: ts) (max d e) row ∧ cs = row ++ rest := by
  cases h with
  | first hw => exact ⟨_, .first (blank_append hw hv) ht hrow, by simp⟩
  | comma hw hw' => exact ⟨_, .comma hw (blank_append hw' hv) ht hrow, by simp⟩

theorem leads_of_nextItem {first : Bool} (h : nextItem first cs = .ok (some ds)) :
    Leads first cs ds := by
  unfold nextItem at h
  split at h
  · cases h
  · cases h
  · rename_i c es _ hspace
    obtain ⟨w, hw, rfl⟩ := blank_of_skipSpace hspace
    split at h
    · rename_i hfirst
      cases h
      rw [hfirst]
      exact .first hw
    · rename_i hfirst
      split at h
      · rename_i hcomma
        subst hcomma
        split at h
        · cases h
        · cases h
        · cases h
          obtain ⟨w', hw', hes⟩ := blank_of_skipSpace (Eq.refl (skipSpace es))
          rw [Bool.eq_false_iff.mpr hfirst]
          nth_rewrite 1 [hes]
          exact .comma hw hw'
      · cases h

theorem closed_of_closeList (h : closeList cs = .ok rest) : ∃ w, Blank w ∧ cs = w ++ ']' :: rest := by
  unfold closeList at h
  split at h
  · cases h
  · rename_i hspace
    cases h
    exact blank_of_skipSpace hspace
  · split at h <;> cases h
  · cases h

theorem closed_of_nextKey {first : Bool} (h : nextKey first cs = .ok none) :
    ∃ w, Blank w ∧ cs = w ++ '\x7d' :: closeObject cs := by
  unfold nextKey at h
  split at h
  · cases h
  · rename_i es hspace
    have hrest : closeObject cs = es := by rw [closeObject, hspace, List.tail_cons]
    rw [hrest]
    exact blank_of_skipSpace hspace
  · split at h
    · split at h
      · exact (map_some_ne_none h).elim
      · cases h
    · split at h
      · split at h
        · cases h
        · exact (map_some_ne_none h).elim
        · cases h
        · cases h
      · cases h

theorem key_of_read {key : String} (h : (readString cs).map some = .ok (some (key, rest))) :
    ∃ k, CharsText key.toList k ∧ cs = k ++ rest := by
  obtain ⟨⟨key', rest'⟩, hread, heq⟩ := map_eq_ok.mp h
  cases heq
  exact stringText_of_read hread

theorem leads_of_nextKey {first : Bool} {key : String}
    (h : nextKey first cs = .ok (some (key, rest))) :
    ∃ k, CharsText key.toList k ∧ Leads first cs ('"' :: (k ++ rest)) := by
  unfold nextKey at h
  split at h
  · cases h
  · cases h
  · rename_i c es _ hspace
    obtain ⟨w, hw, rfl⟩ := blank_of_skipSpace hspace
    split at h
    · rename_i hfirst
      split at h
      · rename_i hquote
        subst hquote
        obtain ⟨k, hk, rfl⟩ := key_of_read h
        rw [hfirst]
        exact ⟨k, hk, .first hw⟩
      · cases h
    · rename_i hfirst
      split at h
      · rename_i hcomma
        subst hcomma
        split at h
        · cases h
        · rename_i hquote
          obtain ⟨w', hw', rfl⟩ := blank_of_skipSpace hquote
          obtain ⟨k, hk, rfl⟩ := key_of_read h
          rw [Bool.eq_false_iff.mpr hfirst]
          exact ⟨k, hk, .comma hw hw'⟩
        · cases h
        · cases h
      · cases h

theorem colon_of_read (h : readColon cs = .ok rest) : ∃ w, Blank w ∧ cs = w ++ ':' :: rest := by
  unfold readColon at h
  split at h
  · cases h
  · rename_i hspace
    cases h
    exact blank_of_skipSpace hspace
  · cases h

theorem row_of_itemsWithin {item : Reader α} {writing : β → Writing} {value : β → α}
    (h : Takes levels item writing value) {n : Nat} {first : Bool} {xs : List α}
    (hread : itemsWithin item n first cs = .ok (xs, rest)) :
    ∃ (bs : List β) (d : Nat) (row : List Char), bs.map value = xs ∧ d ≤ levels ∧
      Row ']' first (bs.map writing) d row ∧ cs = row ++ rest := by
  induction n generalizing first cs xs with
  | zero => cases hread
  | succ n ih =>
    obtain ⟨next, hnext, hread⟩ := bind_eq_ok.mp hread
    cases next with
    | none =>
      obtain ⟨rest', hclose, heq⟩ := bind_eq_ok.mp hread
      cases heq
      obtain ⟨w, hw, rfl⟩ := closed_of_closeList hclose
      exact ⟨[], 0, w ++ [']'], rfl, Nat.zero_le levels, .close hw, by simp⟩
    | some ds =>
      obtain ⟨⟨x, es⟩, hitem, hread⟩ := bind_eq_ok.mp hread
      obtain ⟨⟨xs, rest'⟩, hitems, heq⟩ := bind_eq_ok.mp hread
      cases heq
      obtain ⟨b, d, v, text, rfl, hd, hv, htext, rfl⟩ := h hitem
      obtain ⟨bs, e, body, rfl, he, hbody, rfl⟩ := ih hitems
      obtain ⟨row, hrow, hcs⟩ := row_of_leads (leads_of_nextItem hnext) hv htext hbody
      exact ⟨b :: bs, max d e, row, rfl, Nat.max_le.mpr ⟨hd, he⟩, hrow, hcs⟩

theorem row_of_member {first : Bool} {key : String} {t : Writing} {ts : List Writing} {d e : Nat}
    {v text body : List Char} (hnext : nextKey first cs = .ok (some (key, ds)))
    (hcolon : readColon ds = .ok (v ++ (text ++ (body ++ rest)))) (hv : Blank v) (ht : t.Has d text)
    (hrow : Row '\x7d' false ts e body) :
    ∃ row, Row '\x7d' first (.member key t :: ts) (max d e) row ∧ cs = row ++ rest := by
  obtain ⟨k, hk, hleads⟩ := leads_of_nextKey hnext
  obtain ⟨u, hu, rfl⟩ := colon_of_read hcolon
  have hmember : (Writing.member key t).Has d ('"' :: (k ++ (u ++ ':' :: (v ++ text)))) :=
    ⟨k, u, v, text, hk, hu, hv, ht, rfl⟩
  exact row_of_leads (v := []) (by simpa using hleads) blank_nil hmember hrow

theorem row_of_membersWithin {reader : Reader α} {writing : β → Writing} {value : β → α}
    (h : Takes levels reader writing value) {n : Nat} {first : Bool} {ms : List (String × α)}
    (hread : membersWithin reader n first cs = .ok (ms, rest)) :
    ∃ (bs : List (String × β)) (d : Nat) (row : List Char), bs.map (fun m => (m.1, value m.2)) = ms ∧
      d ≤ levels ∧ Row '\x7d' first (bs.map fun m => .member m.1 (writing m.2)) d row ∧
      cs = row ++ rest := by
  induction n generalizing first cs ms with
  | zero => cases hread
  | succ n ih =>
    obtain ⟨next, hnext, hread⟩ := bind_eq_ok.mp hread
    cases next with
    | none =>
      cases hread
      obtain ⟨w, hw, hcs⟩ := closed_of_nextKey hnext
      exact ⟨[], 0, w ++ ['\x7d'], rfl, Nat.zero_le levels, .close hw, by simpa using hcs⟩
    | some p =>
      obtain ⟨key, ds⟩ := p
      obtain ⟨es, hcolon, hread⟩ := bind_eq_ok.mp hread
      obtain ⟨⟨x, fs⟩, hvalue, hread⟩ := bind_eq_ok.mp hread
      obtain ⟨⟨ms, rest'⟩, hmembers, heq⟩ := bind_eq_ok.mp hread
      cases heq
      obtain ⟨b, d, v, text, rfl, hd, hv, htext, rfl⟩ := h hvalue
      obtain ⟨bs, e, body, rfl, he, hbody, rfl⟩ := ih hmembers
      obtain ⟨row, hrow, hcs⟩ := row_of_member hnext hcolon hv htext hbody
      exact ⟨(key, b) :: bs, max d e, row, rfl, Nat.max_le.mpr ⟨hd, he⟩, hrow, hcs⟩

theorem word_of_read {ws : List Char} {x y : α}
    (h : (readWord ws cs).map (fun rest => (x, rest)) = .ok (y, rest)) : x = y ∧ cs = ws ++ rest := by
  obtain ⟨rest', hword, heq⟩ := map_eq_ok.mp h
  cases heq
  exact ⟨rfl, readWord_eq_ok hword⟩

theorem number_of_read {n : Number} (h : readNumber cs = .ok (n, rest)) :
    ∃ text, (Writing.number n).Has 0 text ∧ cs = text ++ rest := by
  obtain ⟨⟨spelling, rest'⟩, hspelling, h⟩ := bind_eq_ok.mp h
  dsimp only at h
  split at h
  · cases h
  · rename_i hnumber
    cases h
    obtain ⟨text, htext, hcs⟩ := spelled_of_read hspelling
    exact ⟨text, ⟨rfl, spelling, htext, hnumber⟩, hcs⟩

theorem scalar_of_read {v : Value} (h : readScalar cs = .ok (v, rest)) :
    ∃ text, v.sorted = v ∧ v.verbatim.Has 0 text ∧ cs = text ++ rest := by
  unfold readScalar at h
  split at h
  · cases h
  · obtain ⟨rfl, rfl⟩ := word_of_read h
    exact ⟨_, rfl, ⟨rfl, rfl⟩, rfl⟩
  · obtain ⟨rfl, rfl⟩ := word_of_read h
    exact ⟨_, rfl, ⟨rfl, rfl⟩, rfl⟩
  · obtain ⟨rfl, rfl⟩ := word_of_read h
    exact ⟨_, rfl, ⟨rfl, rfl⟩, rfl⟩
  · obtain ⟨⟨s, rest'⟩, hstring, heq⟩ := map_eq_ok.mp h
    cases heq
    obtain ⟨body, hbody, rfl⟩ := stringText_of_read hstring
    exact ⟨'"' :: body, rfl, ⟨rfl, body, hbody, rfl⟩, rfl⟩
  · split at h
    · obtain ⟨⟨n, rest'⟩, hnumber, heq⟩ := map_eq_ok.mp h
      cases heq
      obtain ⟨text, htext, hcs⟩ := number_of_read hnumber
      exact ⟨text, rfl, htext, hcs⟩
    · cases h

theorem takes_value (levels : Nat) :
    Takes levels (readValue levels) Value.verbatim Value.sorted := by
  induction levels with
  | zero =>
    intro cs v rest h
    unfold readValue at h
    split at h
    · cases h
    · cases h
    · obtain ⟨text, hv, htext, hcs⟩ := scalar_of_read h
      obtain ⟨w, hw, rfl⟩ := blank_of_skipSpace hcs
      exact ⟨v, 0, w, text, hv, Nat.le_refl 0, hw, htext, rfl⟩
  | succ levels ih =>
    intro cs v rest h
    unfold readValue at h
    split at h
    · rename_i hspace
      obtain ⟨w, hw, rfl⟩ := blank_of_skipSpace hspace
      obtain ⟨⟨xs, rest'⟩, hitems, heq⟩ := map_eq_ok.mp h
      cases heq
      obtain ⟨ts, d, row, rfl, hd, hrow, rfl⟩ := row_of_itemsWithin ih hitems
      rw [← verbatimItems_eq] at hrow
      exact ⟨.array ts, d + 1, w, '[' :: row, by rw [Value.sorted, sortedItems_eq],
        Nat.succ_le_succ hd, hw, ⟨d, row, hrow, rfl, rfl⟩, rfl⟩
    · rename_i hspace
      obtain ⟨w, hw, rfl⟩ := blank_of_skipSpace hspace
      obtain ⟨⟨ms, rest'⟩, hmembers, heq⟩ := map_eq_ok.mp h
      cases heq
      obtain ⟨ts, d, row, rfl, hd, hrow, rfl⟩ := row_of_membersWithin ih hmembers
      rw [← verbatimMembers_eq] at hrow
      exact ⟨.object ts, d + 1, w, '\x7b' :: row, by rw [Value.sorted, sortedMembers_eq],
        Nat.succ_le_succ hd, hw, ⟨d, row, hrow, rfl, rfl⟩, rfl⟩
    · obtain ⟨text, hv, htext, hcs⟩ := scalar_of_read h
      obtain ⟨w, hw, rfl⟩ := blank_of_skipSpace hcs
      exact ⟨v, 0, w, text, hv, Nat.zero_le _, hw, htext, rfl⟩

/-- A text is read if it is that of a value which does not go too deep, and not otherwise. -/
theorem parse_eq_ok_iff {s : String} {v : Value} :
    parse s = .ok v ↔ ∃ t depth, Value.sorted t = v ∧ depth ≤ maxDepth ∧ t.verbatim.Text depth s := by
  constructor
  · intro h
    obtain ⟨⟨x, rest⟩, hread, h⟩ := bind_eq_ok.mp h
    obtain ⟨t, depth, w, text, hx, hdepth, hw, htext, hs⟩ := takes_value maxDepth hread
    dsimp only at h
    split at h
    · rename_i hspace
      cases h
      obtain ⟨w', hw', rfl⟩ := blank_of_skipSpace hspace
      rw [List.append_nil] at hs
      exact ⟨t, depth, hx, hdepth, w, text, w', hw, htext, hw', hs⟩
    · cases h
  · rintro ⟨t, depth, rfl, hdepth, hs⟩
    exact readText_ok (reads_verbatim t maxDepth) hdepth hs

end GraphBrowser.Json
