import GraphBrowser.Proofs.Json.Fields
import GraphBrowser.Proofs.Json.Local.Reader

namespace GraphBrowser.Json

variable {σ α β : Type}

/-- The earliest key that has been there before. -/
def FirstRepeated (keys : List String) (key : String) : Prop :=
  ∃ before after, keys = before ++ key :: after ∧ before.Nodup ∧ key ∈ before

def FirstMissing (required keys : List String) (key : String) : Prop :=
  ∃ before after, required = before ++ key :: after ∧ (∀ k ∈ before, k ∈ keys) ∧ key ∉ keys

/-- What comes of an object with these known keys: a repeated key is refused where it stands, otherwise
the first required one that is missing, and otherwise there is a record. -/
structure Judged (required keys : List String) (result : Except DecodeError α) : Prop where
  duplicate : ¬ keys.Nodup → ∃ key, FirstRepeated keys key ∧ result = .error (.duplicateField key)
  missing : keys.Nodup → ¬ required ⊆ keys →
    ∃ key, FirstMissing required keys key ∧ result = .error (.missingField key)
  complete : keys.Nodup → required ⊆ keys → ∃ x, result = .ok x

/-- The texts that are read for a field, whatever has been read before. -/
def Field.value (field : Field σ) : Writing where
  Has depth text := depth = 0 ∧ Begins text ∧
    ∀ draft, ∃ draft', readText (field.read draft) (String.ofList text) = .ok draft'
  begins h := h.2.1

/-- Members of an object with these known keys, in their order. Each known member has a value for its
field, and the others have any values. -/
inductive Holds (fields : List (Field σ)) : List String → List Writing → Prop
  | done : Holds fields [] []
  | known {field : Field σ} {keys : List String} {ms : List Writing} : field ∈ fields →
    Holds fields keys ms → Holds fields (field.key :: keys) (.member field.key field.value :: ms)
  | unknown {key : String} {keys : List String} {ms : List Writing} : key ∉ fields.map Field.key →
    Holds fields keys ms → Holds fields keys (.member key .foreign :: ms)

/-- A text of an object with these known keys. -/
def Shape.ObjectText (shape : Shape σ α) (keys : List String) (s : String) : Prop :=
  ∃ ms depth, Holds shape.fields keys ms ∧ (Writing.object ms).Text depth s

def Shape.lacking? (shape : Shape σ α) (draft : σ) : Option (Field σ) :=
  shape.fields.find? fun field => field.required && !field.isSet draft

def Field.Marks (field : Field σ) (fields : List (Field σ)) : Prop :=
  ∀ {draft cs draft' rest}, field.read draft cs = .ok (draft', rest) → ∀ other ∈ fields,
    other.isSet draft' = (other.isSet draft || decide (other.key = field.key))

/-- Drafts of a shape tell which fields have been read, and the only fault of a draft is that it lacks a
required field. -/
structure ShapeTracks (shape : Shape σ α) : Prop where
  nodup : (shape.fields.map Field.key).Nodup
  start : ∀ field ∈ shape.fields, field.isSet shape.start = false
  marks : ∀ field ∈ shape.fields, field.Marks shape.fields
  reads : ∀ field ∈ shape.fields, ∀ draft, Local (field.read draft)
  finish : ∀ draft, (∃ field, shape.lacking? draft = some field ∧
    shape.finish draft = .error (.missingField field.key)) ∨
    shape.lacking? draft = none ∧ ∃ x, shape.finish draft = .ok x

theorem firstRepeated_cons {seen keys : List String} {k key : String} (hseen : seen.Nodup)
    (hk : k ∈ seen) (h : FirstRepeated (seen ++ k :: keys) key) : key = k := by
  obtain ⟨before, after, heq, hbefore, hkey⟩ := h
  -- The keys in front are without repetition on both sides, so they are the same.
  rcases List.append_eq_append_iff.mp heq with ⟨more, rfl, htail⟩ | ⟨more, rfl, htail⟩
  · cases more with
    | nil => exact (List.cons.inj htail).1.symm
    | cons m more =>
      obtain ⟨rfl, -⟩ := List.cons.inj htail
      exact absurd rfl ((List.nodup_append.mp hbefore).2.2 k hk k List.mem_cons_self)
  · cases more with
    | nil => exact (List.cons.inj htail).1
    | cons m more =>
      obtain ⟨rfl, -⟩ := List.cons.inj htail
      exact absurd rfl ((List.nodup_append.mp hseen).2.2 key hkey key List.mem_cons_self)

theorem exists_firstRepeated {keys : List String} (h : ¬ keys.Nodup) :
    ∃ key, FirstRepeated keys key := by
  induction keys using List.reverseRecOn with
  | nil => exact absurd List.nodup_nil h
  | append_singleton keys key ih =>
    by_cases hnodup : keys.Nodup
    · -- Up to the last key there is no repetition, so the last key is the first one that repeats.
      refine ⟨key, keys, [], rfl, hnodup, ?_⟩
      by_contra hnew
      exact h ((List.perm_append_singleton _ _).nodup_iff.mpr (List.nodup_cons.mpr ⟨hnew, hnodup⟩))
    · obtain ⟨key', before, after, rfl, hrepeated⟩ := ih hnodup
      exact ⟨key', before, after ++ [key], by simp, hrepeated⟩

theorem exists_firstMissing {required keys : List String} (h : ¬ required ⊆ keys) :
    ∃ key, FirstMissing required keys key := by
  induction required with
  | nil => exact absurd (List.nil_subset keys) h
  | cons key required ih =>
    by_cases hkey : key ∈ keys
    · obtain ⟨key', before, after, rfl, hbefore, hmissing⟩ :=
        ih fun hsub => h (List.cons_subset.mpr ⟨hkey, hsub⟩)
      exact ⟨key', key :: before, after, rfl, List.forall_mem_cons.mpr ⟨hkey, hbefore⟩, hmissing⟩
    · exact ⟨key, [], required, rfl, by simp, hkey⟩

theorem firstMissing_cons {required keys : List String} {k key : String} (hk : k ∉ keys)
    (h : FirstMissing (k :: required) keys key) : key = k := by
  obtain ⟨before, after, heq, hbefore, -⟩ := h
  cases before with
  | nil => exact (List.cons.inj heq).1.symm
  | cons k' before =>
    obtain ⟨rfl, -⟩ := List.cons.inj heq
    exact absurd (hbefore k List.mem_cons_self) hk

theorem not_firstRepeated {keys : List String} {key : String} (h : keys.Nodup) :
    ¬ FirstRepeated keys key := by
  rintro ⟨before, after, rfl, -, hkey⟩
  exact (List.nodup_append.mp h).2.2 key hkey key List.mem_cons_self rfl

def Marked (fields : List (Field σ)) (draft : σ) (seen : List String) : Prop :=
  ∀ field ∈ fields, field.isSet draft = decide (field.key ∈ seen)

theorem readFields_blank (fields : List (Field σ)) (n : Nat) (first : Bool) (draft : σ) {w : List Char}
    (hw : Blank w) (cs : List Char) :
    readFieldsWithin fields n first draft (w ++ cs) = readFieldsWithin fields n first draft cs := by
  cases n with
  | zero => rfl
  | succ n => simp only [readFieldsWithin, nextKey, closeObject, skipSpace_blank hw]

theorem readFields_repeated {fields : List (Field σ)} {field : Field σ} {n : Nat} {first : Bool}
    {key : String} {text after : List Char} {draft : σ}
    (hnext : nextKey first text = .ok (some (key, after)))
    (hfind : fields.find? (fun f => f.key == key) = some field) (hset : field.isSet draft = true) :
    readFieldsWithin fields (n + 1) first draft text = .error (.duplicateField key) := by
  rw [readFieldsWithin, hnext]
  simp only [bind, Except.bind, hfind, hset, if_true]

theorem readFields_read {fields : List (Field σ)} {field : Field σ} {n : Nat} {first : Bool}
    {key : String} {text after cs w rest : List Char} {draft draft' : σ}
    (hnext : nextKey first text = .ok (some (key, after))) (hcolon : readColon after = .ok cs)
    (hfind : fields.find? (fun f => f.key == key) = some field) (hset : field.isSet draft = false)
    (hread : field.read draft cs = .ok (draft', w ++ rest)) (hw : Blank w) :
    readFieldsWithin fields (n + 1) first draft text = readFieldsWithin fields n false draft' rest := by
  rw [← readFields_blank fields n false draft' hw, readFieldsWithin, hnext]
  simp only [bind, Except.bind, hfind, hset, Bool.false_eq_true, if_false, hcolon, hread]

theorem Marked.read {shape : Shape σ α} (h : ShapeTracks shape) {draft draft' : σ} {seen : List String}
    (hdraft : Marked shape.fields draft seen) {field : Field σ} (hfield : field ∈ shape.fields)
    {cs rest : List Char} (hread : field.read draft cs = .ok (draft', rest)) :
    Marked shape.fields draft' (seen ++ [field.key]) := by
  intro other hother
  rw [h.marks field hfield hread other hother, hdraft other hother]
  simp

theorem readFields_judged {shape : Shape σ α} (h : ShapeTracks shape) {keys : List String}
    {ms : List Writing} (hm : Holds shape.fields keys ms) {draft : σ} {seen : List String}
    (hseen : seen.Nodup) (hdraft : Marked shape.fields draft seen) {first : Bool} {depth : Nat}
    {cs : List Char} (hc : Row '\x7d' first ms depth cs) (rest : List Char) {n : Nat}
    (hlen : cs.length < n) :
    (∀ key, FirstRepeated (seen ++ keys) key →
      readFieldsWithin shape.fields n first draft (cs ++ rest) = .error (.duplicateField key)) ∧
    ((seen ++ keys).Nodup → ∃ draft', Marked shape.fields draft' (seen ++ keys) ∧
      readFieldsWithin shape.fields n first draft (cs ++ rest) = .ok (draft', rest)) := by
  -- The fields read so far are those with the keys in front, and none of these keys is repeated yet.
  induction hm generalizing draft seen first depth cs n with
  | done =>
    cases hc with
    | close hw =>
      obtain ⟨n, rfl⟩ := Nat.exists_eq_add_one_of_ne_zero (n := n) (by omega)
      rw [List.append_nil, List.append_assoc]
      exact ⟨fun key hkey => absurd hkey (not_firstRepeated hseen),
        fun _ => ⟨draft, hdraft, readFields_close shape.fields n first draft hw rest⟩⟩
  | @known field keys ms hfield _ ih =>
    obtain ⟨d, e, after, w, x, cs', rfl, ⟨-, -, hx⟩, hw, hcs, hlt, hnext, hcolon⟩ :=
      row_member hc rest
    obtain ⟨n, rfl⟩ := Nat.exists_eq_add_one_of_ne_zero (n := n) (by omega)
    have hfind := find_key h.nodup hfield
    have hset := hdraft field hfield
    by_cases hk : field.key ∈ seen
    · rw [decide_eq_true hk] at hset
      refine ⟨fun key hkey => ?_, fun hnodup => ?_⟩
      · rw [firstRepeated_cons hseen hk hkey]
        exact readFields_repeated hnext hfind hset
      · exact absurd rfl ((List.nodup_append.mp hnodup).2.2 _ hk _ List.mem_cons_self)
    · rw [decide_eq_false hk] at hset
      obtain ⟨draft₁, hread⟩ := hx draft
      obtain ⟨w', hw', hread⟩ :=
        (h.reads field hfield draft).read_text hread hw (ended_row (.inr rfl) hcs rest)
      have hseen' : (seen ++ [field.key]).Nodup :=
        (List.perm_append_singleton _ _).nodup_iff.mpr (List.nodup_cons.mpr ⟨hk, hseen⟩)
      have hih := ih hseen' (hdraft.read h hfield hread) hcs (n := n) (by omega)
      rw [List.append_assoc, List.singleton_append] at hih
      rw [readFields_read hnext hcolon hfind hset hread hw']
      exact hih
  | @unknown key keys ms hkey _ ih =>
    obtain ⟨d, e, after, w, x, cs', rfl, ⟨-, hx⟩, hw, hcs, hlt, hnext, hcolon⟩ := row_member hc rest
    obtain ⟨n, rfl⟩ := Nat.exists_eq_add_one_of_ne_zero (n := n) (by omega)
    have hskip := skipValue_any hw hx (ended_row (.inr rfl) hcs rest)
    rw [readFields_foreign hnext hcolon (find_unknown hkey) hskip]
    exact ih hseen hdraft hcs (by omega)

theorem key_lacking {shape : Shape σ α} {draft : σ} {keys : List String}
    (hdraft : Marked shape.fields draft keys) :
    (shape.lacking? draft).map Field.key =
      ((shape.fields.filter Field.required).map Field.key).find? fun key => decide (key ∉ keys) := by
  unfold Shape.lacking?
  generalize shape.fields = fields at hdraft ⊢
  induction fields with
  | nil => rfl
  | cons field fields ih =>
    obtain ⟨hset, hrest⟩ := List.forall_mem_cons.mp hdraft
    have hih := ih hrest
    by_cases hrequired : field.required = true
    · by_cases hk : field.key ∈ keys <;> simp [hrequired, hset, hk, hih]
    · simp [hrequired, hih]

theorem readObject_judged {shape : Shape σ α} (h : ShapeTracks shape) {keys : List String}
    {ms : List Writing} (hm : Holds shape.fields keys ms) {depth : Nat} {cs : List Char}
    (hc : Row '\x7d' true ms depth cs) (rest : List Char) {required : List String}
    (hrequired : (shape.fields.filter Field.required).map Field.key = required) :
    (∀ key, FirstRepeated keys key →
      shape.readObject (cs ++ rest) = .error (.duplicateField key)) ∧
    (keys.Nodup → ∀ key, FirstMissing required keys key →
      shape.readObject (cs ++ rest) = .error (.missingField key)) ∧
    (keys.Nodup → required ⊆ keys →
      ∃ x, shape.readObject (cs ++ rest) = .ok (x, rest)) := by
  have hstart : Marked shape.fields shape.start [] := h.start
  obtain ⟨hrepeated, hread⟩ := readFields_judged h hm List.nodup_nil hstart hc rest
    (n := (cs ++ rest).length + 1) (by simp only [List.length_append]; omega)
  rw [List.nil_append] at hrepeated hread
  refine ⟨fun key hkey => ?_, fun hnodup key hmissing => ?_, fun hnodup hall => ?_⟩
  · simp only [Shape.readObject, hrepeated key hkey, bind, Except.bind]
  · obtain ⟨draft, hdraft, hfields⟩ := hread hnodup
    obtain ⟨before, after, hsplit, hbefore, hkey⟩ := hmissing
    have hfirst : required.find? (fun key => decide (key ∉ keys)) = some key :=
      List.find?_eq_some_iff_append.mpr
        ⟨decide_eq_true hkey, before, after, hsplit, fun k hk => by simpa using hbefore k hk⟩
    have hlacking := key_lacking hdraft
    rw [hrequired, hfirst] at hlacking
    rcases h.finish draft with ⟨field, hfield, hfinish⟩ | ⟨hnone, -⟩
    · rw [hfield] at hlacking
      obtain rfl := Option.some.inj hlacking
      simp only [Shape.readObject, hfields, bind, Except.bind, hfinish]
    · rw [hnone] at hlacking
      cases hlacking
  · obtain ⟨draft, hdraft, hfields⟩ := hread hnodup
    have hnone : required.find? (fun key => decide (key ∉ keys)) = none := by
      rw [List.find?_eq_none]
      intro key hkey
      simpa using hall hkey
    have hlacking := key_lacking hdraft
    rw [hrequired, hnone] at hlacking
    rcases h.finish draft with ⟨field, hfield, -⟩ | ⟨-, x, hx⟩
    · rw [hfield] at hlacking
      cases hlacking
    · refine ⟨x, ?_⟩
      simp only [Shape.readObject, hfields, bind, Except.bind, hx]
      rfl

theorem readText_object (name : String) (shape : Shape σ α) {w body w' : List Char} {s : String}
    (hw : Blank w) (hs : s.toList = w ++ ('\x7b' :: body ++ w')) :
    readText (recordReader name (some shape)) s = (shape.readObject (body ++ w') >>= fun p =>
      match skipSpace p.2 with
      | [] => .ok p.1
      | _ => .error .trailingCharacters) := by
  unfold readText recordReader
  rw [hs, List.cons_append, skipSpace_blank_cons hw (by decide)]
  rfl

/-- Only the known keys decide what comes of a text of an object. -/
theorem judged_text (name : String) {shape : Shape σ α} (h : ShapeTracks shape)
    {required : List String}
    (hrequired : (shape.fields.filter Field.required).map Field.key = required) {keys : List String}
    {s : String} (hs : shape.ObjectText keys s) :
    Judged required keys (readText (recordReader name (some shape)) s) := by
  obtain ⟨ms, depth, hm, w, text, w', hw, ⟨d, body, hrow, rfl, rfl⟩, hw', hs⟩ := hs
  obtain ⟨hrepeated, hmissing, hcomplete⟩ := readObject_judged h hm hrow w' hrequired
  rw [readText_object name shape hw hs]
  refine ⟨fun hnot => ?_, fun hnodup hnot => ?_, fun hnodup hall => ?_⟩
  · obtain ⟨key, hkey⟩ := exists_firstRepeated hnot
    refine ⟨key, hkey, ?_⟩
    rw [hrepeated key hkey]
    rfl
  · obtain ⟨key, hkey⟩ := exists_firstMissing hnot
    refine ⟨key, hkey, ?_⟩
    rw [hmissing hnodup key hkey]
    rfl
  · obtain ⟨x, hx⟩ := hcomplete hnodup hall
    have hspace : skipSpace w' = [] := by
      rw [← List.append_nil w', skipSpace_blank hw']
      rfl
    refine ⟨x, ?_⟩
    rw [hx]
    simp only [bind, Except.bind, hspace]

theorem readText_map (reader : Reader α) (f : α → β) (s : String) :
    readText (fun cs => (reader cs).map fun (x, rest) => (f x, rest)) s = (readText reader s).map f := by
  unfold readText
  cases h : reader s.toList with
  | error e => simp only [h, Except.map, bind, Except.bind]
  | ok p =>
    simp only [h, Except.map, bind, Except.bind]
    cases skipSpace p.2 <;> rfl

theorem has_value_iff {key : String} {required : Bool} {get : σ → Option β} {set : σ → β → σ}
    {reader : Reader β} {text : List Char} (draft : σ) :
    (Field.of key required get set reader).value.Has 0 text ↔
      Begins text ∧ ∃ x, readText reader (String.ofList text) = .ok x := by
  constructor
  · rintro ⟨-, hbegins, hread⟩
    obtain ⟨draft', hdraft⟩ := hread draft
    obtain ⟨x, hx, -⟩ := map_eq_ok.mp ((readText_map reader (set draft) _).symm.trans hdraft)
    exact ⟨hbegins, x, hx⟩
  · rintro ⟨hbegins, x, hx⟩
    refine ⟨rfl, hbegins, fun draft => ⟨set draft x, ?_⟩⟩
    exact (readText_map reader (set draft) _).trans (map_eq_ok.mpr ⟨x, hx, rfl⟩)

theorem marks_of {fields : List (Field σ)} {key : String} {required : Bool} {get : σ → Option β}
    {set : σ → β → σ} {reader : Reader β}
    (h : ∀ draft x, ∀ other ∈ fields,
      other.isSet (set draft x) = (other.isSet draft || decide (other.key = key))) :
    (Field.of key required get set reader).Marks fields := by
  intro draft cs draft' rest hread
  obtain ⟨⟨x, rest'⟩, -, heq⟩ := map_eq_ok.mp hread
  cases heq
  exact h draft x

end GraphBrowser.Json
