import GraphBrowser.Json.Record
import GraphBrowser.Proofs.Json.Accepted.Verbatim
import GraphBrowser.Proofs.Json.Local.Skip

namespace GraphBrowser.Json

variable {α β σ : Type} {cs ds rest more : List Char}

/-- The reader passes over white space, and takes the same with more text behind it, unless a number
could go on there. -/
structure Local (reader : Reader α) : Prop where
  skips : ∀ {w : List Char}, Blank w → ∀ cs, reader (w ++ cs) = reader cs
  append : ∀ {cs x rest}, reader cs = .ok (x, rest) → ∀ {more}, Ended (rest ++ more) →
    reader (cs ++ more) = .ok (x, rest ++ more)

theorem Local.mapped {reader : Reader α} (h : Local reader) (f : α → β) :
    Local fun cs => (reader cs).map fun (x, rest) => (f x, rest) where
  skips hw cs := by rw [h.skips hw]
  append {cs y rest} hread {more} hmore := by
    obtain ⟨⟨x, rest'⟩, hx, heq⟩ := map_eq_ok.mp hread
    cases heq
    simp only [h.append hx hmore]
    rfl

theorem readString_append {s : String} (h : readString cs = .ok (s, rest)) (more : List Char) :
    readString (cs ++ more) = .ok (s, rest ++ more) := by
  obtain ⟨body, hbody, rfl⟩ := stringText_of_read h
  rw [List.append_assoc]
  exact readString_text hbody (rest ++ more)

theorem local_string : Local stringReader where
  skips hw cs := by
    unfold stringReader
    rw [skipSpace_blank hw]
  append {cs s rest} h {more} _ := by
    unfold stringReader at h
    split at h
    · rename_i hspace
      unfold stringReader
      rw [skipSpace_append hspace more]
      exact readString_append h more
    · cases h

theorem map_readWord_append {ws : List Char} {x y : α}
    (h : (readWord ws cs).map (fun rest => (x, rest)) = .ok (y, rest)) (more : List Char) :
    (readWord ws (cs ++ more)).map (fun rest => (x, rest)) = .ok (y, rest ++ more) := by
  obtain ⟨rest', hword, heq⟩ := map_eq_ok.mp h
  cases heq
  rw [readWord_append hword more]
  rfl

theorem local_bool : Local boolReader where
  skips hw cs := by
    unfold boolReader
    rw [skipSpace_blank hw]
  append {cs b rest} h {more} _ := by
    unfold boolReader at h
    split at h
    · rename_i hspace
      unfold boolReader
      rw [skipSpace_append hspace more]
      exact map_readWord_append h more
    · rename_i hspace
      unfold boolReader
      rw [skipSpace_append hspace more]
      exact map_readWord_append h more
    · cases h

theorem scalar_head {c : Char} {v : Value} (h : readScalar (c :: cs) = .ok (v, rest)) :
    isSpace c = false ∧ c ≠ '[' ∧ c ≠ '\x7b' := by
  refine ⟨?_, ?_, ?_⟩
  · cases hspace : isSpace c with
    | false => rfl
    | true =>
      simp only [isSpace, Bool.or_eq_true, decide_eq_true_eq] at hspace
      rcases hspace with ((rfl | rfl) | rfl) | rfl <;> cases h
  · rintro rfl
    cases h
  · rintro rfl
    cases h

theorem readScalar_append {v : Value} (h : readScalar cs = .ok (v, rest))
    (hmore : Ended (rest ++ more)) : readScalar (cs ++ more) = .ok (v, rest ++ more) := by
  obtain ⟨text, hv, htext, rfl⟩ := scalar_of_read h
  obtain ⟨c, text, rfl, _⟩ := v.verbatim.begins htext
  obtain ⟨hspace, hlist, hobject⟩ := scalar_head h
  have hread := reads_verbatim v 0 htext blank_nil hmore
  rw [within_zero, hv, List.nil_append, List.cons_append] at hread
  rw [List.append_assoc, List.cons_append, ← hread]
  exact (readValue_scalar hspace hlist hobject 0 blank_nil _).symm

theorem local_nat (limit : Nat) (expected : Expected) : Local (natReader limit expected) where
  skips hw cs := by
    unfold natReader
    rw [skipSpace_blank hw]
  append {cs n rest} h {more} hmore := by
    unfold natReader at h
    dsimp only at h
    split at h
    · rename_i i rest' hscalar
      split at h
      · rename_i hbound
        cases h
        obtain ⟨c, ds, hspace⟩ : ∃ c ds, skipSpace cs = c :: ds := by
          refine List.exists_cons_of_ne_nil fun hnil => ?_
          rw [hnil] at hscalar
          cases hscalar
        rw [hspace] at hscalar
        have hread := readScalar_append hscalar hmore
        rw [List.cons_append] at hread
        unfold natReader
        simp only [skipSpace_append hspace more, hread, if_pos hbound]
      · cases h
    · cases h

theorem local_word32 : Local word32Reader := (local_nat UInt32.size .word32).mapped _

theorem local_word64 : Local word64Reader := (local_nat UInt64.size .word64).mapped _

theorem local_value (levels : Nat) : Local (readValue levels) where
  skips hw cs := by
    unfold readValue
    rw [skipSpace_blank hw]
  append {cs v rest} h {more} hmore := by
    obtain ⟨t, d, w, text, rfl, hd, hw, htext, rfl⟩ := takes_value levels h
    rw [List.append_assoc, List.append_assoc, reads_verbatim t levels htext hw hmore, within, if_pos hd]

theorem nextItem_append {first : Bool} {next : Option (List Char)} (h : nextItem first cs = .ok next)
    (more : List Char) : nextItem first (cs ++ more) = .ok (next.map (· ++ more)) := by
  unfold nextItem at h ⊢
  split at h
  · cases h
  · rename_i hspace
    cases h
    rw [skipSpace_append hspace more]
    rfl
  · rename_i hspace
    rw [skipSpace_append hspace more]
    split at h
    · rename_i hfirst
      cases h
      simp [hfirst]
    · rename_i hfirst
      split at h
      · rename_i hcomma
        split at h
        · cases h
        · cases h
        · rename_i hnil hlast
          obtain ⟨d, fs, hrest⟩ := List.exists_cons_of_ne_nil hnil
          have hd : d ≠ ']' := by
            rintro rfl
            exact hlast fs hrest
          cases h
          simp [hfirst, hcomma, hrest, skipSpace_append hrest more, hd]
      · cases h

theorem closeList_append (h : closeList cs = .ok rest) (more : List Char) :
    closeList (cs ++ more) = .ok (rest ++ more) := by
  obtain ⟨w, hw, rfl⟩ := closed_of_closeList h
  rw [List.append_assoc]
  exact closeList_close hw (rest ++ more)

theorem readColon_append (h : readColon cs = .ok rest) (more : List Char) :
    readColon (cs ++ more) = .ok (rest ++ more) := by
  obtain ⟨w, hw, rfl⟩ := colon_of_read h
  rw [List.append_assoc]
  exact readColon_colon hw (rest ++ more)

theorem nextKey_append {first : Bool} {key : String} (h : nextKey first cs = .ok (some (key, rest)))
    (more : List Char) : nextKey first (cs ++ more) = .ok (some (key, rest ++ more)) := by
  obtain ⟨k, hk, hleads⟩ := leads_of_nextKey h
  cases hleads with
  | first hw =>
    simp only [List.append_assoc, List.cons_append]
    exact nextKey_first hw hk (rest ++ more)
  | comma hw hw' =>
    simp only [List.append_assoc, List.cons_append]
    exact nextKey_comma hw hw' hk (rest ++ more)

theorem closeObject_append {first : Bool} (h : nextKey first cs = .ok none) (more : List Char) :
    nextKey first (cs ++ more) = .ok none ∧ closeObject (cs ++ more) = closeObject cs ++ more := by
  obtain ⟨w, hw, hcs⟩ := closed_of_nextKey h
  generalize closeObject cs = rest at hcs
  subst hcs
  rw [List.append_assoc]
  exact ⟨nextKey_close first hw (rest ++ more), closeObject_close hw (rest ++ more)⟩

theorem ended_of_nextItem {next : Option (List Char)} (h : nextItem false cs = .ok next)
    (more : List Char) : Ended (cs ++ more) := by
  unfold nextItem at h
  split at h
  · cases h
  · rename_i hspace
    exact ended_of_skipSpace hspace (by decide) more
  · rename_i c es _ hspace
    simp only [Bool.false_eq_true, if_false] at h
    split at h
    · rename_i hcomma
      subst hcomma
      exact ended_of_skipSpace hspace (by decide) more
    · cases h

theorem ended_of_nextKey {next : Option (String × List Char)} (h : nextKey false cs = .ok next)
    (more : List Char) : Ended (cs ++ more) := by
  unfold nextKey at h
  split at h
  · cases h
  · rename_i hspace
    exact ended_of_skipSpace hspace (by decide) more
  · rename_i c es _ hspace
    simp only [Bool.false_eq_true, if_false] at h
    split at h
    · rename_i hcomma
      subst hcomma
      exact ended_of_skipSpace hspace (by decide) more
    · cases h

theorem itemsWithin_append {item : Reader α} (hitem : Local item) {n : Nat} {first : Bool}
    {xs : List α} (h : itemsWithin item n first cs = .ok (xs, rest)) (more : List Char) {m : Nat}
    (hm : n ≤ m) : itemsWithin item m first (cs ++ more) = .ok (xs, rest ++ more) := by
  obtain ⟨k, rfl⟩ := Nat.exists_eq_add_of_le hm
  clear hm
  induction n generalizing first cs xs with
  | zero => cases h
  | succ n ih =>
    obtain ⟨next, hnext, h⟩ := bind_eq_ok.mp h
    have hnext' := nextItem_append hnext more
    cases next with
    | none =>
      obtain ⟨rest', hclose, heq⟩ := bind_eq_ok.mp h
      cases heq
      simp only [Nat.succ_add, itemsWithin, hnext', Option.map, bind, Except.bind,
        closeList_append hclose more]
      rfl
    | some ds =>
      obtain ⟨⟨x, es⟩, hx, h⟩ := bind_eq_ok.mp h
      obtain ⟨⟨xs, rest'⟩, hxs, heq⟩ := bind_eq_ok.mp h
      cases heq
      have hended : Ended (es ++ more) := by
        cases n with
        | zero => cases hxs
        | succ n =>
          obtain ⟨next, hnext, -⟩ := bind_eq_ok.mp hxs
          exact ended_of_nextItem hnext more
      have hx' := hitem.append hx hended
      have hxs' := ih hxs
      simp only [Nat.succ_add, itemsWithin, hnext', Option.map, bind, Except.bind, hx', hxs']
      rfl

theorem local_list {item : Reader α} (h : Local item) : Local (listReader (some item)) where
  skips hw cs := by
    unfold listReader
    rw [skipSpace_blank hw]
  append {cs xs rest} hread {more} _ := by
    unfold listReader at hread
    split at hread
    · rename_i hspace
      unfold listReader
      rw [skipSpace_append hspace more]
      exact itemsWithin_append h hread more (by simp)
    · cases hread

theorem local_list_none : Local (@listReader α none) where
  skips hw cs := by
    unfold listReader
    rw [skipSpace_blank hw]
  append hread := by
    unfold listReader at hread
    split at hread <;> cases hread

theorem membersWithin_append {value : Reader α} (hvalue : Local value) {n : Nat} {first : Bool}
    {ms : List (String × α)} (h : membersWithin value n first cs = .ok (ms, rest)) (more : List Char)
    {m : Nat} (hm : n ≤ m) : membersWithin value m first (cs ++ more) = .ok (ms, rest ++ more) := by
  obtain ⟨k, rfl⟩ := Nat.exists_eq_add_of_le hm
  clear hm
  induction n generalizing first cs ms with
  | zero => cases h
  | succ n ih =>
    obtain ⟨next, hnext, h⟩ := bind_eq_ok.mp h
    cases next with
    | none =>
      cases h
      obtain ⟨hnext', hclose⟩ := closeObject_append hnext more
      simp only [Nat.succ_add, membersWithin, hnext', bind, Except.bind, hclose]
      rfl
    | some p =>
      obtain ⟨key, ds⟩ := p
      obtain ⟨es, hcolon, h⟩ := bind_eq_ok.mp h
      obtain ⟨⟨x, fs⟩, hx, h⟩ := bind_eq_ok.mp h
      obtain ⟨⟨ms, rest'⟩, hms, heq⟩ := bind_eq_ok.mp h
      cases heq
      have hended : Ended (fs ++ more) := by
        cases n with
        | zero => cases hms
        | succ n =>
          obtain ⟨next, hnext, -⟩ := bind_eq_ok.mp hms
          exact ended_of_nextKey hnext more
      have hx' := hvalue.append hx hended
      have hms' := ih hms
      simp only [Nat.succ_add, membersWithin, nextKey_append hnext more, bind, Except.bind,
        readColon_append hcolon more, hx', hms']
      rfl

theorem local_map {value : Reader α} (h : Local value) : Local (mapReader (some value)) where
  skips hw cs := by
    unfold mapReader
    rw [skipSpace_blank hw]
  append {cs ms rest} hread {more} _ := by
    unfold mapReader at hread
    split at hread
    · rename_i hspace
      unfold mapReader
      rw [skipSpace_append hspace more]
      exact membersWithin_append h hread more (by simp)
    · cases hread

theorem local_map_none : Local (@mapReader α none) where
  skips hw cs := by
    unfold mapReader
    rw [skipSpace_blank hw]
  append hread := by
    unfold mapReader at hread
    split at hread <;> cases hread

theorem readFieldsWithin_append {fields : List (Field σ)}
    (hfields : ∀ field ∈ fields, ∀ draft, Local (field.read draft)) {n : Nat} {first : Bool}
    {draft draft' : σ} (h : readFieldsWithin fields n first draft cs = .ok (draft', rest))
    (more : List Char) {m : Nat} (hm : n ≤ m) :
    readFieldsWithin fields m first draft (cs ++ more) = .ok (draft', rest ++ more) := by
  have hended : ∀ {n : Nat} {draft : σ} {es : List Char},
      readFieldsWithin fields n false draft es = .ok (draft', rest) → Ended (es ++ more) := by
    intro n draft es h
    cases n with
    | zero => cases h
    | succ n =>
      obtain ⟨next, hnext, -⟩ := bind_eq_ok.mp h
      exact ended_of_nextKey hnext more
  obtain ⟨k, rfl⟩ := Nat.exists_eq_add_of_le hm
  clear hm
  induction n generalizing first draft cs with
  | zero => cases h
  | succ n ih =>
    obtain ⟨next, hnext, h⟩ := bind_eq_ok.mp h
    cases next with
    | none =>
      cases h
      obtain ⟨hnext', hclose⟩ := closeObject_append hnext more
      simp only [Nat.succ_add, readFieldsWithin, hnext', bind, Except.bind, hclose]
      rfl
    | some p =>
      obtain ⟨key, ds⟩ := p
      dsimp only at h
      simp only [Nat.succ_add, readFieldsWithin, nextKey_append hnext more, bind, Except.bind]
      split at h
      · obtain ⟨es, hcolon, h⟩ := bind_eq_ok.mp h
        obtain ⟨fs, hskip, h⟩ := bind_eq_ok.mp h
        simp only [readColon_append hcolon more, skipValue_append hskip (hended h)]
        exact ih h
      · rename_i field hfind
        split at h
        · cases h
        · rename_i hset
          obtain ⟨es, hcolon, h⟩ := bind_eq_ok.mp h
          obtain ⟨⟨draft₁, fs⟩, hvalue, h⟩ := bind_eq_ok.mp h
          have hvalue' :=
            (hfields field (List.mem_of_find?_eq_some hfind) draft).append hvalue (hended h)
          simp only [if_neg hset, readColon_append hcolon more, hvalue']
          exact ih h

theorem readInOrder_append {fields : List (Field σ)}
    (hfields : ∀ field ∈ fields, ∀ draft, Local (field.read draft)) (tooShort : Nat → DecodeError)
    {index : Nat} {draft draft' : σ}
    (h : readInOrder tooShort fields index draft cs = .ok (draft', rest))
    (hmore : Ended (rest ++ more)) :
    readInOrder tooShort fields index draft (cs ++ more) = .ok (draft', rest ++ more) := by
  induction fields generalizing index draft cs with
  | nil =>
    cases h
    rfl
  | cons field fields ih =>
    rw [List.forall_mem_cons] at hfields
    obtain ⟨next, hnext, h⟩ := bind_eq_ok.mp h
    have hnext' := nextItem_append hnext more
    cases next with
    | none =>
      dsimp only at h
      split at h
      · cases h
      · rename_i hrequired
        simp only [readInOrder, hnext', Option.map, bind, Except.bind, if_neg hrequired]
        exact ih hfields.2 h
    | some ds =>
      obtain ⟨⟨draft₁, es⟩, hvalue, h⟩ := bind_eq_ok.mp h
      have hended : Ended (es ++ more) := by
        cases fields with
        | nil =>
          cases h
          exact hmore
        | cons field' fields =>
          obtain ⟨next, hnext, -⟩ := bind_eq_ok.mp h
          exact ended_of_nextItem hnext more
      have hvalue' := (hfields.1 draft).append hvalue hended
      simp only [readInOrder, hnext', Option.map, bind, Except.bind, hvalue']
      exact ih hfields.2 h

theorem readObject_append {shape : Shape σ α}
    (h : ∀ field ∈ shape.fields, ∀ draft, Local (field.read draft)) {x : α}
    (hread : shape.readObject cs = .ok (x, rest)) (more : List Char) :
    shape.readObject (cs ++ more) = .ok (x, rest ++ more) := by
  obtain ⟨⟨draft, rest'⟩, hfields, hread⟩ := bind_eq_ok.mp hread
  obtain ⟨x', hfinish, heq⟩ := bind_eq_ok.mp hread
  cases heq
  have hfields' := readFieldsWithin_append h hfields more (m := (cs ++ more).length + 1) (by simp)
  simp only [Shape.readObject, hfields', bind, Except.bind, hfinish]
  rfl

theorem readList_append {shape : Shape σ α}
    (h : ∀ field ∈ shape.fields, ∀ draft, Local (field.read draft)) {x : α}
    (hread : shape.readList cs = .ok (x, rest)) (more : List Char) :
    shape.readList (cs ++ more) = .ok (x, rest ++ more) := by
  obtain ⟨⟨draft, ds⟩, hfields, hread⟩ := bind_eq_ok.mp hread
  obtain ⟨x', hfinish, hread⟩ := bind_eq_ok.mp hread
  obtain ⟨rest', hclose, heq⟩ := bind_eq_ok.mp hread
  cases heq
  have hended : Ended (ds ++ more) := by
    obtain ⟨w, hw, rfl⟩ := closed_of_closeList hclose
    exact ended_punctuation hw (by decide) rest more
  have hfields' := readInOrder_append h _ hfields hended
  simp only [Shape.readList, hfields', bind, Except.bind, hfinish, closeList_append hclose more]
  rfl

theorem local_record (name : String) {shape : Shape σ α}
    (h : ∀ field ∈ shape.fields, ∀ draft, Local (field.read draft)) :
    Local (recordReader name (some shape)) where
  skips hw cs := by
    unfold recordReader
    rw [skipSpace_blank hw]
  append {cs x rest} hread {more} _ := by
    unfold recordReader at hread
    split at hread
    · rename_i hspace
      unfold recordReader
      rw [skipSpace_append hspace more]
      exact readObject_append h hread more
    · rename_i hspace
      unfold recordReader
      rw [skipSpace_append hspace more]
      exact readList_append h hread more
    · cases hread

theorem local_record_none (name : String) : Local (@recordReader σ α name none) where
  skips hw cs := by
    unfold recordReader
    rw [skipSpace_blank hw]
  append hread := by
    unfold recordReader at hread
    split at hread <;> cases hread

theorem local_field {key : String} {required : Bool} {get : σ → Option β} {set : σ → β → σ}
    {reader : Reader β} (h : Local reader) (draft : σ) :
    Local ((Field.of key required get set reader).read draft) :=
  h.mapped (set draft)

/-- What is read from a text of its own is read from it wherever a number could not go on. -/
theorem Local.read_text {reader : Reader α} (h : Local reader) {text : List Char} {x : α}
    (hread : readText reader (String.ofList text) = .ok x) {w : List Char} (hw : Blank w)
    {more : List Char} (hmore : Ended more) :
    ∃ w', Blank w' ∧ reader (w ++ (text ++ more)) = .ok (x, w' ++ more) := by
  obtain ⟨⟨x', w'⟩, hx, hread⟩ := bind_eq_ok.mp hread
  rw [String.toList_ofList] at hx
  dsimp only at hread
  split at hread
  · rename_i hspace
    cases hread
    obtain ⟨w', hw', rfl⟩ := blank_of_skipSpace hspace
    rw [List.append_nil] at hx
    refine ⟨w', hw', ?_⟩
    rw [h.skips hw]
    exact h.append hx (ended_blank hw' hmore)
  · cases hread

end GraphBrowser.Json
