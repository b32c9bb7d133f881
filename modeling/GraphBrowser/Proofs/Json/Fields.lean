import GraphBrowser.Json.Record
import GraphBrowser.Proofs.Json.Reading
import GraphBrowser.Proofs.Json.Skip

namespace GraphBrowser.Json

variable {σ α : Type} {levels : Nat} {draft : List String → σ}

/-- A field takes each way to write its value, and marks it in the draft. Here `draft keys` is the
draft in which the fields with the given keys have been read. -/
structure FieldReads (levels : Nat) (draft : List String → σ) (field : Field σ) (slot : Slot) :
    Prop where
  key : field.key = slot.key
  required : slot.optional → field.required = false
  isSet : ∀ keys, field.isSet (draft keys) = decide (slot.key ∈ keys)
  read : ∀ keys, Reads levels (field.read (draft keys)) slot.writing (draft (slot.key :: keys))

/-- All fields are read so, and a draft with all that is not optional stands for `x`. -/
structure ShapeReads (levels : Nat) (draft : List String → σ) (shape : Shape σ α)
    (slots : List Slot) (x : α) : Prop where
  fields : List.Forall₂ (FieldReads levels draft) shape.fields slots
  nodup : (slots.map Slot.key).Nodup
  start : shape.start = draft []
  finish : ∀ keys, (∀ slot ∈ slots, slot.key ∈ keys ∨ slot.optional) →
    shape.finish (draft keys) = .ok x

theorem find_key {fields : List (Field σ)} (h : (fields.map Field.key).Nodup) {field : Field σ}
    (hf : field ∈ fields) : fields.find? (fun f => f.key == field.key) = some field := by
  induction fields with
  | nil => cases hf
  | cons f fields ih =>
    obtain ⟨hnotin, h⟩ := List.nodup_cons.mp h
    rcases List.mem_cons.mp hf with rfl | hf
    · simp
    · have hne : f.key ≠ field.key := fun he => hnotin (he ▸ List.mem_map_of_mem hf)
      simp [hne, ih h hf]

theorem find_unknown {fields : List (Field σ)} {key : String} (h : key ∉ fields.map Field.key) :
    fields.find? (fun f => f.key == key) = none := by
  rw [List.find?_eq_none]
  intro field hf he
  exact h (beq_iff_eq.mp he ▸ List.mem_map_of_mem hf)

theorem keys_eq {fields : List (Field σ)} {slots : List Slot}
    (h : List.Forall₂ (FieldReads levels draft) fields slots) :
    fields.map Field.key = slots.map Slot.key := by
  induction h with
  | nil => rfl
  | cons hf _ ih => rw [List.map_cons, List.map_cons, hf.key, ih]

theorem find_field {fields : List (Field σ)} {slots : List Slot}
    (h : List.Forall₂ (FieldReads levels draft) fields slots) (hn : (slots.map Slot.key).Nodup)
    {slot : Slot} (hs : slot ∈ slots) :
    ∃ field, fields.find? (fun f => f.key == slot.key) = some field ∧
      FieldReads levels draft field slot := by
  have hfield : ∃ field ∈ fields, FieldReads levels draft field slot := by
    clear hn
    induction h with
    | nil => cases hs
    | cons hf _ ih =>
      rcases List.mem_cons.mp hs with rfl | hs
      · exact ⟨_, List.mem_cons_self, hf⟩
      · obtain ⟨field, hmem, hr⟩ := ih hs
        exact ⟨field, List.mem_cons_of_mem _ hmem, hr⟩
  obtain ⟨field, hmem, hr⟩ := hfield
  rw [← keys_eq h] at hn
  exact ⟨field, hr.key ▸ find_key hn hmem, hr⟩

theorem find_foreign {fields : List (Field σ)} {slots : List Slot}
    (h : List.Forall₂ (FieldReads levels draft) fields slots) {key : String}
    (hk : key ∉ slots.map Slot.key) : fields.find? (fun f => f.key == key) = none := by
  rw [← keys_eq h] at hk
  exact find_unknown hk

theorem readFields_close (fields : List (Field σ)) (n : Nat) (first : Bool) (s : σ) {w : List Char}
    (hw : Blank w) (rest : List Char) :
    readFieldsWithin fields (n + 1) first s (w ++ '\x7d' :: rest) = .ok (s, rest) := by
  simp only [readFieldsWithin, nextKey_close first hw, closeObject_close hw, bind, Except.bind, pure,
    Except.pure]

theorem readFields_field {fields : List (Field σ)} {field : Field σ} {n d e : Nat} {first : Bool}
    {key : String} {text after cs rest : List Char} {s s' : σ} {result : σ × List Char}
    (hnext : nextKey first text = .ok (some (key, after))) (hcolon : readColon after = .ok cs)
    (hfind : fields.find? (fun f => f.key == key) = some field) (hset : field.isSet s = false)
    (hread : field.read s cs = within levels d (s', rest))
    (hrest : readFieldsWithin fields n false s' rest = within levels e result) :
    readFieldsWithin fields (n + 1) first s text = within levels (max d e) result := by
  rw [readFieldsWithin, hnext]
  simp only [bind, Except.bind, hfind, hset, Bool.false_eq_true, if_false, hcolon]
  change (field.read s cs >>= fun p => readFieldsWithin fields n false p.1 p.2) = _
  rw [hread]
  exact within_bind hrest

theorem readFields_foreign {fields : List (Field σ)} {n : Nat} {first : Bool} {key : String}
    {text after cs rest : List Char} {s : σ} (hnext : nextKey first text = .ok (some (key, after)))
    (hcolon : readColon after = .ok cs) (hfind : fields.find? (fun f => f.key == key) = none)
    (hskip : skipValue cs = .ok rest) :
    readFieldsWithin fields (n + 1) first s text = readFieldsWithin fields n false s rest := by
  rw [readFieldsWithin, hnext]
  simp only [bind, Except.bind, hfind, hcolon, hskip]

theorem readFields_row {fields : List (Field σ)} {slots : List Slot}
    (h : List.Forall₂ (FieldReads levels draft) fields slots) (hn : (slots.map Slot.key).Nodup)
    {present : List Slot} {ms : List Writing} (ha : Arranged (slots.map Slot.key) present ms)
    (hin : ∀ slot ∈ present, slot ∈ slots) (hp : (present.map Slot.key).Nodup) {keys : List String}
    (hnew : ∀ slot ∈ present, slot.key ∉ keys) {first : Bool} {depth : Nat} {cs : List Char}
    (hc : Row '\x7d' first ms depth cs) (rest : List Char) {n : Nat} (hlen : cs.length < n) :
    readFieldsWithin fields n first (draft keys) (cs ++ rest) =
      within levels depth (draft ((present.map Slot.key).reverseAux keys), rest) := by
  -- A foreign member leaves the draft as it is and counts for no depth.
  induction ha generalizing keys first depth cs n with
  | done =>
    cases hc with
    | close hw =>
      obtain ⟨n, rfl⟩ := Nat.exists_eq_add_one_of_ne_zero (n := n) (by omega)
      rw [List.append_assoc, within_zero]
      exact readFields_close fields n first _ hw rest
  | @field slot present ms _ ih =>
    obtain ⟨hnotin, hp⟩ := List.nodup_cons.mp hp
    obtain ⟨field, hfind, hfield⟩ := find_field h hn (hin slot (by simp))
    obtain ⟨d, e, after, w, x, cs', rfl, hx, hw, hcs, hlt, hnext, hcolon⟩ := row_member hc rest
    obtain ⟨n, rfl⟩ := Nat.exists_eq_add_one_of_ne_zero (n := n) (by omega)
    have hset : field.isSet (draft keys) = false := by
      rw [hfield.isSet, decide_eq_false_iff_not]
      exact hnew slot (by simp)
    have hnew' : ∀ s ∈ present, s.key ∉ slot.key :: keys := by
      intro s hs
      rw [List.mem_cons, not_or]
      exact ⟨fun he => hnotin (he ▸ List.mem_map_of_mem hs), hnew s (by simp [hs])⟩
    exact readFields_field hnext hcolon hfind hset
      (hfield.read keys hx hw (ended_row (.inr rfl) hcs rest))
      (ih (fun s hs => hin s (by simp [hs])) hp hnew' hcs (by omega))
  | @foreign key present ms hk _ ih =>
    obtain ⟨d, e, after, w, x, cs', rfl, ⟨rfl, hx⟩, hw, hcs, hlt, hnext, hcolon⟩ := row_member hc rest
    obtain ⟨n, rfl⟩ := Nat.exists_eq_add_one_of_ne_zero (n := n) (by omega)
    have hskip := skipValue_any hw hx (ended_row (.inr rfl) hcs rest)
    rw [readFields_foreign hnext hcolon (find_foreign h hk) hskip, Nat.zero_max]
    exact ih hin hp hnew hcs (by omega)

theorem ShapeReads.finish_present {shape : Shape σ α} {slots : List Slot} {x : α}
    (h : ShapeReads levels draft shape slots x) {present : List Slot}
    (hall : ∀ slot ∈ slots, slot ∈ present ∨ slot.optional) :
    shape.finish (draft ((present.map Slot.key).reverseAux [])) = .ok x := by
  apply h.finish
  intro slot hs
  rcases hall slot hs with hmem | hopt
  · exact .inl (by simpa using List.mem_map_of_mem hmem)
  · exact .inr hopt

theorem readObject_row {shape : Shape σ α} {slots : List Slot} {x : α}
    (h : ShapeReads levels draft shape slots x) {present : List Slot} {ms : List Writing}
    (ha : Arranged (slots.map Slot.key) present ms) (hin : ∀ slot ∈ present, slot ∈ slots)
    (hp : (present.map Slot.key).Nodup)
    (hall : ∀ slot ∈ slots, slot ∈ present ∨ slot.optional) {depth : Nat} {cs : List Char}
    (hc : Row '\x7d' true ms depth cs) (rest : List Char) :
    shape.readObject (cs ++ rest) = within levels depth (x, rest) := by
  have hread : readFieldsWithin shape.fields ((cs ++ rest).length + 1) true (draft []) (cs ++ rest) =
      within levels depth (draft ((present.map Slot.key).reverseAux []), rest) :=
    readFields_row h.fields h.nodup ha hin hp (by simp) hc rest
      (by simp only [List.length_append]; omega)
  unfold Shape.readObject
  rw [h.start, hread]
  apply within_bind_ok
  simp only [h.finish_present hall, bind, Except.bind, pure, Except.pure]

theorem readInOrder_absent (tooShort : Nat → DecodeError) {fields : List (Field σ)}
    {slots : List Slot} (h : List.Forall₂ (FieldReads levels draft) fields slots)
    (hopt : ∀ slot ∈ slots, slot.optional) (index : Nat) (s : σ) {w : List Char} (hw : Blank w)
    (rest : List Char) :
    readInOrder tooShort fields index s (w ++ ']' :: rest) = .ok (s, w ++ ']' :: rest) := by
  induction h generalizing index with
  | nil => rfl
  | @cons field slot fields slots hf _ ih =>
    have hr : field.required = false := hf.required (hopt slot (by simp))
    rw [readInOrder, nextItem_close _ hw]
    simp only [bind, Except.bind, hr, Bool.false_eq_true, if_false]
    exact ih (fun s hs => hopt s (by simp [hs])) (index + 1)

theorem readInOrder_field {tooShort : Nat → DecodeError} {field : Field σ}
    {fields : List (Field σ)} {index d e : Nat} {text cs rest : List Char} {s s' : σ}
    {result : σ × List Char} (hnext : nextItem (index == 0) text = .ok (some cs))
    (hread : field.read s cs = within levels d (s', rest))
    (hrest : readInOrder tooShort fields (index + 1) s' rest = within levels e result) :
    readInOrder tooShort (field :: fields) index s text = within levels (max d e) result := by
  rw [readInOrder, hnext]
  change (field.read s cs >>= fun p => readInOrder tooShort fields (index + 1) p.1 p.2) = _
  rw [hread]
  exact within_bind hrest

theorem readInOrder_row (tooShort : Nat → DecodeError) {fields : List (Field σ)}
    {present absent : List Slot}
    (h : List.Forall₂ (FieldReads levels draft) fields (present ++ absent))
    (hopt : ∀ slot ∈ absent, slot.optional) (index : Nat) (keys : List String) {first : Bool}
    (hfirst : (index == 0) = first) {depth : Nat} {cs : List Char}
    (hc : Row ']' first (present.map Slot.writing) depth cs) (rest : List Char) :
    ∃ w, Blank w ∧ readInOrder tooShort fields index (draft keys) (cs ++ rest) =
      within levels depth (draft ((present.map Slot.key).reverseAux keys), w ++ ']' :: rest) := by
  induction present generalizing fields index keys first depth cs with
  | nil =>
    cases hc with
    | @close _ w hw =>
      refine ⟨w, hw, ?_⟩
      rw [List.append_assoc, within_zero]
      exact readInOrder_absent tooShort h hopt index (draft keys) hw rest
  | cons slot present ih =>
    cases h with
    | cons hf h =>
      obtain ⟨d, e, x, cs', rfl, hx, hcs, _, hnext⟩ := row_item hc rest
      obtain ⟨w, hw, hrest⟩ := ih h (index + 1) (slot.key :: keys) rfl hcs
      rw [← hfirst] at hnext
      exact ⟨w, hw, readInOrder_field hnext
        (hf.read keys hx blank_nil (ended_row (.inl rfl) hcs rest)) hrest⟩

theorem readList_row {shape : Shape σ α} {slots : List Slot} {x : α}
    (h : ShapeReads levels draft shape slots x) {present absent : List Slot}
    (hslots : slots = present ++ absent) (hopt : ∀ slot ∈ absent, slot.optional) {depth : Nat}
    {cs : List Char} (hc : Row ']' true (present.map Slot.writing) depth cs) (rest : List Char) :
    shape.readList (cs ++ rest) = within levels depth (x, rest) := by
  subst hslots
  obtain ⟨w, hw, hread⟩ := readInOrder_row
    (fun index => .tooShort index shape.name shape.fields.length) h.fields hopt 0 [] rfl hc rest
  have hall : ∀ slot ∈ present ++ absent, slot ∈ present ∨ slot.optional := fun slot hs =>
    (List.mem_append.mp hs).imp_right (hopt slot)
  unfold Shape.readList
  dsimp only
  rw [h.start, hread]
  apply within_bind_ok
  simp only [h.finish_present hall, closeList_close hw, bind, Except.bind, pure, Except.pure]

theorem reads_record (name : String) {shape : Shape σ α} {slots : List Slot} {x : α}
    (h : ShapeReads levels draft shape slots x) :
    Reads (levels + 1) (recordReader name (some shape)) (.record slots) x := by
  rintro depth text
    (⟨present, ms, hp, hin, hall, ha, d, body, hrow, rfl, rfl⟩ |
      ⟨present, absent, hslots, hopt, d, body, hrow, rfl, rfl⟩) w rest hw _
  · unfold recordReader
    rw [List.cons_append, skipSpace_blank_cons hw (by decide), within_succ]
    exact readObject_row h ha hin hp hall hrow rest
  · unfold recordReader
    rw [List.cons_append, skipSpace_blank_cons hw (by decide), within_succ]
    exact readList_row h hslots hopt hrow rest

theorem reads_record_none (name : String) (slots : List Slot) (x : α) :
    Reads 0 (@recordReader σ α name none) (.record slots) x := by
  rintro depth text
    (⟨_, ms, _, _, _, _, d, body, _, rfl, rfl⟩ | ⟨present, _, _, _, d, body, _, rfl, rfl⟩)
    w rest hw _
  · unfold recordReader
    rw [List.cons_append, skipSpace_blank_cons hw (by decide)]
    rfl
  · unfold recordReader
    rw [List.cons_append, skipSpace_blank_cons hw (by decide)]
    rfl

theorem fieldReads_of {key : String} {required : Bool} {get : σ → Option β} {set : σ → β → σ}
    {reader : Reader β} {slot : Slot} {x : β} (hkey : key = slot.key)
    (hrequired : slot.optional → required = false)
    (hget : ∀ keys, (get (draft keys)).isSome = decide (slot.key ∈ keys))
    (hset : ∀ keys, set (draft keys) x = draft (slot.key :: keys))
    (hread : Reads levels reader slot.writing x) :
    FieldReads levels draft (.of key required get set reader) slot where
  key := hkey
  required := hrequired
  isSet := hget
  read keys := by
    rw [← hset keys]
    exact hread.mapped (set (draft keys))

/-- The place of a field in a draft in which the fields with the given keys have been read. -/
def drafted (keys : List String) (key : String) (x : β) : Option β :=
  if key ∈ keys then some x else none

theorem isSome_drafted (keys : List String) (key : String) (x : β) :
    (drafted keys key x).isSome = decide (key ∈ keys) := by
  by_cases h : key ∈ keys <;> simp [drafted, h]

@[simp]
theorem drafted_nil (key : String) (x : β) : drafted [] key x = none := rfl

@[simp]
theorem drafted_self (keys : List String) (key : String) (x : β) :
    drafted (key :: keys) key x = some x := by
  simp [drafted]

@[simp]
theorem drafted_other {keys : List String} {key key' : String} (h : key ≠ key') (x : β) :
    drafted (key' :: keys) key x = drafted keys key x := by
  simp [drafted, h]

theorem require_drafted {keys : List String} {key : String} (h : key ∈ keys) (x : β) :
    require key (drafted keys key x) = .ok x := by
  simp [require, drafted, h]

theorem getD_drafted {keys : List String} {key : String} {x y : β} (h : key ∈ keys ∨ x = y) :
    (drafted keys key x).getD y = x := by
  rcases h with h | rfl
  · simp [drafted, h]
  · by_cases hk : key ∈ keys <;> simp [drafted, hk]

end GraphBrowser.Json
