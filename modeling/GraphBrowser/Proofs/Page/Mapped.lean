import GraphBrowser.Proofs.Page.Slice
import GraphBrowser.Report

namespace GraphBrowser

/-- The calls of a function that carries a state, for a list of elements and the list of answers:
one call for each element in its order, from the state that the call before has left. -/
inductive Calls (f : α → StateM σ β) : σ → List α → List β → σ → Prop where
  | nil (s : σ) : Calls f s [] [] s
  | cons {s t u : σ} {a : α} {b : β} {as : List α} {bs : List β} :
      (f a).run s = (b, t) → Calls f t as bs u → Calls f s (a :: as) (b :: bs) u

def piped (f : α → StateM σ β) (g : β → StateM τ γ) (a : α) : StateM (σ × τ) γ := fun (s, t) =>
  let (b, s') := (f a).run s
  let (c, t') := (g b).run t
  (c, s', t')

variable {σ τ : Type} {f : α → StateM σ β} {g : β → StateM τ γ} {s s' : σ} {t t' : τ}

theorem run_piped {a : α} {b : β} {c : γ} (hf : (f a).run s = (b, s')) (hg : (g b).run t = (c, t')) :
    (piped f g a).run (s, t) = (c, s', t') := by
  have hrun : (piped f g a).run (s, t) =
      (((g ((f a).run s).1).run t).1, ((f a).run s).2, ((g ((f a).run s).1).run t).2) := rfl
  rw [hrun, hf, hg]

theorem run_mapM_cons {a : α} {b : β} (hcall : (f a).run s = (b, s')) (as : List α) :
    ((a :: as).mapM f).run s = (b :: ((as.mapM f).run s').1, ((as.mapM f).run s').2) := by
  rw [List.mapM_cons, StateT.run_bind, hcall]
  rfl

namespace Calls

variable {as : List α} {bs : List β} {cs : List γ}

theorem exists_answers (f : α → StateM σ β) (as : List α) (s : σ) : ∃ bs s', Calls f s as bs s' := by
  induction as generalizing s with
  | nil => exact ⟨[], s, .nil s⟩
  | cons a as ih =>
    obtain ⟨bs, s', hrest⟩ := ih ((f a).run s).2
    exact ⟨((f a).run s).1 :: bs, s', .cons rfl hrest⟩

theorem length_eq (h : Calls f s as bs s') : bs.length = as.length := by
  induction h with
  | nil s => rfl
  | cons _ _ ih => rw [List.length_cons, List.length_cons, ih]

theorem run_mapM (h : Calls f s as bs s') : (as.mapM f).run s = (bs, s') := by
  induction h with
  | nil s => rfl
  | cons hcall _ ih => rw [run_mapM_cons hcall, ih]

theorem piped (h : Calls f s as bs s') (h' : Calls g t bs cs t') :
    Calls (piped f g) (s, t) as cs (s', t') := by
  induction h generalizing t cs with
  | nil s =>
    cases h'
    exact .nil _
  | cons hcall _ ih =>
    cases h' with
    | cons hcall' hrest => exact .cons (run_piped hcall hcall') (ih hrest)

end Calls

namespace ResultPage

/-- Two pages with the same page links, of which both or none agree with themselves. Their elements
may be of different kinds. -/
structure Alike (p : ResultPage α) (q : ResultPage β) : Prop where
  isConsistent_eq : q.isConsistent = p.isConsistent
  isEmpty_eq : q.isEmpty = p.isEmpty
  window_eq : q.window = p.window
  pagination_eq : Report.pagination q = Report.pagination p

theorem alike_of_length (p : ResultPage α) {bs : List β} (h : bs.length = p.content.length) :
    Alike p { p with content := bs } where
  isConsistent_eq := by simp only [isConsistent, h]
  isEmpty_eq := by
    rw [isEmpty, isEmpty, Bool.eq_iff_iff, List.isEmpty_iff_length_eq_zero,
      List.isEmpty_iff_length_eq_zero, h]
  window_eq := rfl
  pagination_eq := rfl

theorem run_mapM {p : ResultPage α} {bs : List β} (h : Calls f s p.content bs s') :
    (p.mapM f).run s = ({ p with content := bs }, s') := by
  rw [mapM, StateT.run_bind, h.run_mapM]
  rfl

theorem mapM_pure [Monad m] [LawfulMonad m] (f : α → β) (p : ResultPage α) :
    (p.mapM fun a => (pure (f a) : m β)) = pure { p with content := p.content.map f } := by
  simp [mapM]

theorem map_eq (f : α → β) (p : ResultPage α) : p.map f = { p with content := p.content.map f } := by
  rw [map, mapM_pure, Id.run_pure]

theorem slice_map (f : α → β) (all : List α) (i size : Nat) :
    slice (all.map f) i size = (slice all i size).map f := by
  rw [slice, slice, ← List.map_drop, ← List.map_take]

theorem ofList_map (f : α → β) (all : List α) (number size : UInt32) :
    ofList (all.map f) number size = (ofList all number size).map (map f) := by
  unfold ofList
  rw [List.length_map]
  split
  · rfl
  · dsimp only
    split
    · rfl
    · have hslice := slice_map f all number.toNat size.toNat
      unfold slice at hslice
      rw [hslice, List.length_map, Except.map, map_eq]

/-- A page of a listing whose elements have been replaced is the page of the listing itself with its
elements replaced, and where there is no page the error is the same. Any page keeps all but its
elements, so its links and the agreement of its numbers stay, and replacing the elements twice is
replacing them by the composition. A function may carry a state: it is called once for each element, in
order, and the calls of two functions with a state each may as well be made in turns. -/
theorem mapping_commutes_with_paging :
    (∀ (f : α → β) (all : List α) (number size : UInt32),
      ofList (all.map f) number size = (ofList all number size).map (map f)) ∧
    (∀ (f : α → β) (g : β → γ) (p : ResultPage α),
      p.map f = { p with content := p.content.map f } ∧
      Alike p (p.map f) ∧
      (p.map f).map g = p.map (g ∘ f)) ∧
    ∀ {σ τ : Type} (f : α → StateM σ β) (g : β → StateM τ γ) (p : ResultPage α) (s : σ) (t : τ),
      ∃ (q : ResultPage β) (s' : σ) (r : ResultPage γ) (t' : τ),
        (p.mapM f).run s = (q, s') ∧
        (q.mapM g).run t = (r, t') ∧
        q = { p with content := q.content } ∧
        Calls f s p.content q.content s' ∧
        Alike p q ∧
        (p.mapM (piped f g)).run (s, t) = (r, s', t') := by
  refine ⟨ofList_map, fun f g p => ⟨map_eq f p, ?_, ?_⟩, fun f g p s t => ?_⟩
  · rw [map_eq]
    exact alike_of_length p (List.length_map f)
  · rw [map_eq, map_eq, map_eq, List.map_map]
  · obtain ⟨bs, s', hf⟩ := Calls.exists_answers f p.content s
    obtain ⟨cs, t', hg⟩ := Calls.exists_answers g bs t
    refine ⟨{ p with content := bs }, s', { p with content := cs }, t', ?_⟩
    have halike := alike_of_length p hf.length_eq
    exact ⟨run_mapM hf, run_mapM hg, rfl, hf, halike, run_mapM (hf.piped hg)⟩

end ResultPage

end GraphBrowser
