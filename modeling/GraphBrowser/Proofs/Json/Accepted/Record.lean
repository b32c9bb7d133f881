import GraphBrowser.Json.Record
import GraphBrowser.Proofs.Json.Accepted.Value

namespace GraphBrowser.Json

variable {α β σ : Type}

def FieldYields (P : Nat → σ → Prop) (field : Field σ) : Prop :=
  ∀ draft, Yields 0 (fun d draft' => P d draft → P d draft') (field.read draft)

theorem fieldYields_of {P : Nat → σ → Prop} {Q : Nat → β → Prop} {key : String} {required : Bool}
    {get : σ → Option β} {set : σ → β → σ} {reader : Reader β} (h : Yields 0 Q reader)
    (hset : ∀ d draft x, Q d x → P d draft → P d (set draft x)) :
    FieldYields P (.of key required get set reader) :=
  fun draft => h.mapped fun d x => hset d draft x

theorem yields_readFieldsWithin {P : Nat → σ → Prop} {fields : List (Field σ)}
    (h : ∀ field ∈ fields, FieldYields P field) (n : Nat) (first : Bool) (draft : σ) :
    Yields 1 (fun d draft' => P d draft → P d draft') (readFieldsWithin fields n first draft) := by
  -- A foreign member leaves the draft as it is, and leaves no bracket of its own open.
  induction n generalizing first draft with
  | zero =>
    intro cs draft' rest hread
    cases hread
  | succ n ih =>
    intro cs draft' rest hread
    obtain ⟨next, hnext, hread⟩ := bind_eq_ok.mp hread
    cases next with
    | none =>
      cases hread
      exact .of_closes (closes_closeObject hnext) fun _ hp => hp
    | some p =>
      obtain ⟨key, ds⟩ := p
      dsimp only at hread
      split at hread
      · obtain ⟨es, hcolon, hread⟩ := bind_eq_ok.mp hread
        obtain ⟨fs, hskip, hread⟩ := bind_eq_ok.mp hread
        have hes := (closes_nextKey hnext).trans (closes_readColon hcolon)
        exact (ih false draft hread).after (hes.trans (closes_skipValue hskip))
      · rename_i field hfind
        split at hread
        · cases hread
        · obtain ⟨es, hcolon, hread⟩ := bind_eq_ok.mp hread
          obtain ⟨⟨draft₁, fs⟩, hvalue, hread⟩ := bind_eq_ok.mp hread
          have hfield := h field (List.mem_of_find?_eq_some hfind) draft hvalue
          have hes := (closes_nextKey hnext).trans (closes_readColon hcolon)
          refine .after (.seq hfield (ih false draft₁ hread) ?_) hes
          intro d hp hp' hdraft
          exact hp' (hp hdraft)

theorem yields_readInOrder {P : Nat → σ → Prop} {fields : List (Field σ)}
    (h : ∀ field ∈ fields, FieldYields P field) (tooShort : Nat → DecodeError) (index : Nat)
    (draft : σ) :
    Yields 0 (fun d draft' => P d draft → P d draft') (readInOrder tooShort fields index draft) := by
  induction fields generalizing index draft with
  | nil =>
    intro cs draft' rest hread
    cases hread
    exact .of_closes (closes_refl cs) fun _ hp => hp
  | cons field fields ih =>
    rw [List.forall_mem_cons] at h
    intro cs draft' rest hread
    obtain ⟨next, hnext, hread⟩ := bind_eq_ok.mp hread
    cases next with
    | none =>
      dsimp only at hread
      split at hread
      · cases hread
      · exact ih h.2 _ draft hread
    | some ds =>
      obtain ⟨⟨draft₁, es⟩, hvalue, hread⟩ := bind_eq_ok.mp hread
      refine .after (.seq (h.1 draft hvalue) (ih h.2 _ draft₁ hread) ?_) (closes_nextItem hnext)
      intro d hp hp' hdraft
      exact hp' (hp hdraft)

structure ShapeYields (P : Nat → σ → Prop) (Q : Nat → α → Prop) (shape : Shape σ α) : Prop where
  start : ∀ d, P d shape.start
  fields : ∀ field ∈ shape.fields, FieldYields P field
  finish : ∀ d draft x, shape.finish draft = .ok x → P d draft → Q d x

theorem ShapeYields.readObject {P : Nat → σ → Prop} {Q : Nat → α → Prop} {shape : Shape σ α}
    (h : ShapeYields P Q shape) : Yields 1 Q shape.readObject := by
  intro cs x rest hread
  obtain ⟨⟨draft, rest'⟩, hfields, hread⟩ := bind_eq_ok.mp hread
  obtain ⟨x', hfinish, heq⟩ := bind_eq_ok.mp hread
  cases heq
  exact (yields_readFieldsWithin h.fields _ true shape.start hfields).mono fun d hp =>
    h.finish d draft x hfinish (hp (h.start d))

theorem ShapeYields.readList {P : Nat → σ → Prop} {Q : Nat → α → Prop} {shape : Shape σ α}
    (h : ShapeYields P Q shape) : Yields 1 Q shape.readList := by
  intro cs x rest hread
  obtain ⟨⟨draft, ds⟩, hfields, hread⟩ := bind_eq_ok.mp hread
  obtain ⟨x', hfinish, hread⟩ := bind_eq_ok.mp hread
  obtain ⟨rest', hclose, heq⟩ := bind_eq_ok.mp hread
  cases heq
  have hdraft := yields_readInOrder h.fields _ 0 shape.start hfields
  exact ⟨hdraft.closes.trans (closes_closeList hclose),
    fun n d hd => h.finish d draft x hfinish (hdraft.fits n d hd (h.start d))⟩

theorem yields_record {P : Nat → σ → Prop} {Q : Nat → α → Prop} {shape : Shape σ α} (name : String)
    (h : ShapeYields P Q shape) : Yields 0 (Enclosed Q) (recordReader name (some shape)) := by
  intro cs x rest hread
  unfold recordReader at hread
  split at hread
  · rename_i hspace
    exact (h.readObject hread).enclosed (.inr rfl) hspace
  · rename_i hspace
    exact (h.readList hread).enclosed (.inl rfl) hspace
  · cases hread

theorem yields_record_none (P : Nat → α → Prop) (name : String) :
    Yields 0 P (recordReader (σ := σ) name none) := by
  intro cs x rest hread
  unfold recordReader at hread
  split at hread <;> cases hread

/-- If the fields may grow by one bracket when they are written, so may the record. -/
theorem yields_fits_record {P : Nat → σ → Prop} {value : α → Value}
    {WithoutFloats Exact : α → Prop} {shape : Shape σ α} (name : String)
    (h : ShapeYields P (fun d => Fits value WithoutFloats Exact (d + 2)) shape) :
    Yields 0 (fun d => Fits value WithoutFloats Exact (d + 1)) (recordReader name (some shape)) := by
  apply (yields_record name h).mono
  rintro _ x ⟨d, rfl, hx⟩
  exact hx

theorem readText_yields {P : Nat → α → Prop} {reader : Reader α} (h : Yields 0 P reader) {s : String}
    {x : α} (hread : readText reader s = .ok x) {d : Nat} (hd : openBrackets s ≤ d) : P d x := by
  obtain ⟨⟨x', rest⟩, hx, hread⟩ := bind_eq_ok.mp hread
  dsimp only at hread
  split at hread
  · cases hread
    exact (h hx).fits 0 d (by rwa [Nat.zero_add])
  · cases hread

end GraphBrowser.Json
