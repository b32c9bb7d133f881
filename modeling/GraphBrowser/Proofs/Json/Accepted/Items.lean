import GraphBrowser.Json.Reader
import GraphBrowser.Proofs.Json.Brackets

namespace GraphBrowser.Json

variable {α β γ : Type} {k : Nat} {cs ds rest : List Char}

/-- `x` has been read from `cs` up to `rest`, and on the way `k` brackets more have been closed than
opened. `P d x` holds if `cs` goes no more than `d` brackets deeper than the place where it begins. -/
structure ReadFrom (k : Nat) (P : Nat → α → Prop) (cs rest : List Char) (x : α) : Prop where
  closes : Closes k cs rest
  fits : ∀ n d, deepest .outside n cs ≤ n + d → P d x

def Enclosed (P : Nat → α → Prop) (d : Nat) (x : α) : Prop := ∃ e, d = e + 1 ∧ P e x

namespace ReadFrom

variable {P : Nat → α → Prop} {Q : Nat → β → Prop} {x : α} {y : β}

theorem of_closes (h : Closes k cs rest) (hx : ∀ d, P d x) : ReadFrom k P cs rest x :=
  ⟨h, fun _ d _ => hx d⟩

theorem mono (h : ReadFrom k P cs rest x) (hPQ : ∀ d, P d x → Q d y) : ReadFrom k Q cs rest y :=
  ⟨h.closes, fun n d hd => hPQ d (h.fits n d hd)⟩

theorem after (h : ReadFrom k P ds rest x) (hds : Closes 0 cs ds) : ReadFrom k P cs rest x :=
  ⟨hds.trans h.closes, fun n d hd => h.fits n d (Nat.le_trans (hds n) hd)⟩

theorem seq (h : ReadFrom 0 P cs ds x) (h' : ReadFrom k Q ds rest y) {R : Nat → γ → Prop} {z : γ}
    (hR : ∀ d, P d x → Q d y → R d z) : ReadFrom k R cs rest z := by
  refine ⟨h.closes.trans h'.closes, ?_⟩
  intro n d hd
  exact hR d (h.fits n d hd) (h'.fits n d (Nat.le_trans (h.closes n) hd))

theorem enclosed (h : ReadFrom (k + 1) P ds rest x) {c : Char} (hc : c = '[' ∨ c = '\x7b')
    (hcs : skipSpace cs = c :: ds) : ReadFrom k (Enclosed P) cs rest x := by
  have hopened : ReadFrom k (Enclosed P) (c :: ds) rest x := by
    refine ⟨closes_open hc h.closes, ?_⟩
    intro n d hd
    have hopen := Nat.le_trans (deepest_open hc n ds) hd
    have hpos := Nat.le_trans (le_deepest .outside (n + 1) ds) hopen
    exact ⟨d - 1, by omega, h.fits (n + 1) (d - 1) (by omega)⟩
  exact hopened.after (hcs ▸ closes_skipSpace cs)

end ReadFrom

/-- Whatever the reader gives has been read in this way. -/
def Yields (k : Nat) (P : Nat → α → Prop) (reader : Reader α) : Prop :=
  ∀ ⦃cs x rest⦄, reader cs = .ok (x, rest) → ReadFrom k P cs rest x

theorem Yields.mono {P Q : Nat → α → Prop} {reader : Reader α} (h : Yields k P reader)
    (hPQ : ∀ d x, P d x → Q d x) : Yields k Q reader :=
  fun _ x _ hread => (h hread).mono fun d => hPQ d x

theorem Yields.mapped {P : Nat → α → Prop} {Q : Nat → β → Prop} {reader : Reader α}
    (h : Yields k P reader) {f : α → β} (hPQ : ∀ d x, P d x → Q d (f x)) :
    Yields k Q fun cs => (reader cs).map fun p => (f p.1, p.2) := by
  intro cs y rest hmap
  obtain ⟨⟨x, rest⟩, hread, hy⟩ := map_eq_ok.mp hmap
  cases hy
  exact (h hread).mono fun d => hPQ d x

theorem yields_trivial {reader : Reader α}
    (h : ∀ ⦃cs x rest⦄, reader cs = .ok (x, rest) → Closes k cs rest) :
    Yields k (fun _ _ => True) reader :=
  fun _ _ _ hread => .of_closes (h hread) fun _ => trivial

theorem closes_nextItem {first : Bool} (h : nextItem first cs = .ok (some ds)) : Closes 0 cs ds := by
  unfold nextItem at h
  split at h
  · cases h
  · cases h
  · rename_i c es _ hspace
    split at h
    · cases h
      exact closes_of_skipSpace hspace (closes_refl _)
    · split at h
      · rename_i hcomma
        subst hcomma
        split at h
        · cases h
        · cases h
        · cases h
          exact closes_of_skipSpace hspace (closes_plain (by decide) (closes_skipSpace es))
      · cases h

theorem closes_closeList (h : closeList cs = .ok rest) : Closes 1 cs rest := by
  unfold closeList at h
  split at h
  · cases h
  · rename_i hspace
    cases h
    exact closes_of_skipSpace hspace (closes_close (.inl rfl) (closes_refl _))
  · split at h <;> cases h
  · cases h

theorem map_some_ne_none {r : Except DecodeError (String × List Char)}
    (h : r.map some = .ok none) : False := by
  obtain ⟨_, _, h⟩ := map_eq_ok.mp h
  cases h

theorem closes_map_readString {key : String} (h : (readString cs).map some = .ok (some (key, rest))) :
    Closes 0 ('"' :: cs) rest := by
  obtain ⟨p, hp, heq⟩ := map_eq_ok.mp h
  cases heq
  exact closes_readString hp

theorem closes_nextKey {first : Bool} {key : String}
    (h : nextKey first cs = .ok (some (key, rest))) : Closes 0 cs rest := by
  unfold nextKey at h
  split at h
  · cases h
  · cases h
  · rename_i c es _ hspace
    split at h
    · split at h
      · rename_i hquote
        subst hquote
        exact closes_of_skipSpace hspace (closes_map_readString h)
      · cases h
    · split at h
      · rename_i hcomma
        subst hcomma
        split at h
        · cases h
        · rename_i hquote
          exact closes_of_skipSpace hspace
            (closes_plain (by decide) (closes_of_skipSpace hquote (closes_map_readString h)))
        · cases h
        · cases h
      · cases h

theorem closes_closeObject {first : Bool} (h : nextKey first cs = .ok none) :
    Closes 1 cs (closeObject cs) := by
  unfold nextKey at h
  split at h
  · cases h
  · rename_i es hspace
    have hrest : closeObject cs = es := by rw [closeObject, hspace, List.tail_cons]
    rw [hrest]
    exact closes_of_skipSpace hspace (closes_close (.inr rfl) (closes_refl es))
  · split at h
    · split at h
      · exact (map_some_ne_none h).elim
      · cases h
    · split at h
      · split at h
        · cases h
        · exact (map_some_ne_none h).elim
        · cases h
        · cases h
      · cases h

theorem closes_readColon (h : readColon cs = .ok rest) : Closes 0 cs rest := by
  unfold readColon at h
  split at h
  · cases h
  · rename_i hspace
    cases h
    exact closes_of_skipSpace hspace (closes_plain (by decide) (closes_refl _))
  · cases h

theorem yields_itemsWithin {P : Nat → α → Prop} {item : Reader α} (h : Yields 0 P item) (n : Nat)
    (first : Bool) : Yields 1 (fun d xs => ∀ x ∈ xs, P d x) (itemsWithin item n first) := by
  induction n generalizing first with
  | zero =>
    intro cs xs rest hread
    cases hread
  | succ n ih =>
    intro cs xs rest hread
    obtain ⟨next, hnext, hread⟩ := bind_eq_ok.mp hread
    cases next with
    | none =>
      obtain ⟨rest', hclose, heq⟩ := bind_eq_ok.mp hread
      cases heq
      exact .of_closes (closes_closeList hclose) fun _ => List.forall_mem_nil _
    | some ds =>
      obtain ⟨⟨x, es⟩, hitem, hread⟩ := bind_eq_ok.mp hread
      obtain ⟨⟨xs, rest'⟩, hitems, heq⟩ := bind_eq_ok.mp hread
      cases heq
      refine .after (.seq (h hitem) (ih false hitems) ?_) (closes_nextItem hnext)
      intro d hx hxs
      exact List.forall_mem_cons.mpr ⟨hx, hxs⟩

theorem yields_items {P : Nat → α → Prop} {item : Reader α} (h : Yields 0 P item) :
    Yields 1 (fun d xs => ∀ x ∈ xs, P d x) (items item) :=
  fun _ _ _ hread => yields_itemsWithin h _ true hread

theorem yields_membersWithin {P : Nat → α → Prop} {value : Reader α} (h : Yields 0 P value) (n : Nat)
    (first : Bool) : Yields 1 (fun d ms => ∀ m ∈ ms, P d m.2) (membersWithin value n first) := by
  induction n generalizing first with
  | zero =>
    intro cs ms rest hread
    cases hread
  | succ n ih =>
    intro cs ms rest hread
    obtain ⟨next, hnext, hread⟩ := bind_eq_ok.mp hread
    cases next with
    | none =>
      cases hread
      exact .of_closes (closes_closeObject hnext) fun _ => List.forall_mem_nil _
    | some p =>
      obtain ⟨key, ds⟩ := p
      obtain ⟨es, hcolon, hread⟩ := bind_eq_ok.mp hread
      obtain ⟨⟨x, fs⟩, hvalue, hread⟩ := bind_eq_ok.mp hread
      obtain ⟨⟨ms, rest'⟩, hmembers, heq⟩ := bind_eq_ok.mp hread
      cases heq
      have hes := (closes_nextKey hnext).trans (closes_readColon hcolon)
      refine .after (.seq (h hvalue) (ih false hmembers) ?_) hes
      intro d hx hms
      exact List.forall_mem_cons.mpr ⟨hx, hms⟩

theorem yields_members {P : Nat → α → Prop} {value : Reader α} (h : Yields 0 P value) :
    Yields 1 (fun d ms => ∀ m ∈ ms, P d m.2) (members value) :=
  fun _ _ _ hread => yields_membersWithin h _ true hread

theorem yields_list {P : Nat → α → Prop} {item : Reader α} (h : Yields 0 P item) :
    Yields 0 (Enclosed fun d xs => ∀ x ∈ xs, P d x) (listReader (some item)) := by
  intro cs xs rest hread
  unfold listReader at hread
  split at hread
  · rename_i hspace
    exact (yields_items h hread).enclosed (.inl rfl) hspace
  · cases hread

theorem yields_list_none (P : Nat → List α → Prop) : Yields 0 P (listReader none) := by
  intro cs xs rest hread
  unfold listReader at hread
  split at hread <;> cases hread

theorem yields_map {P : Nat → α → Prop} {value : Reader α} (h : Yields 0 P value) :
    Yields 0 (Enclosed fun d ms => ∀ m ∈ ms, P d m.2) (mapReader (some value)) := by
  intro cs ms rest hread
  unfold mapReader at hread
  split at hread
  · rename_i hspace
    exact (yields_members h hread).enclosed (.inr rfl) hspace
  · cases hread

theorem yields_map_none (P : Nat → List (String × α) → Prop) : Yields 0 P (mapReader none) := by
  intro cs ms rest hread
  unfold mapReader at hread
  split at hread <;> cases hread

end GraphBrowser.Json
