import GraphBrowser.Json.Skip
import GraphBrowser.Proofs.Json.Token
import GraphBrowser.Proofs.Results

namespace GraphBrowser.Json

/-- Where a character of a text stands: outside of strings, inside of one, or there behind a
backslash. -/
inductive Place where
  | outside
  | quoted
  | escaped

def Place.next (c : Char) : Place → Place
  | .outside => if c = '"' then .quoted else .outside
  | .quoted => if c = '"' then .outside else if c = '\\' then .escaped else .quoted
  | .escaped => .quoted

def Place.openBehind (c : Char) (opened : Nat) : Place → Nat
  | .outside =>
    if c = '[' ∨ c = '\x7b' then opened + 1 else if c = ']' ∨ c = '\x7d' then opened - 1 else opened
  | .quoted | .escaped => opened

/-- How many brackets are open at the deepest place of a text, with `opened` before it. -/
def deepest (place : Place) (opened : Nat) : List Char → Nat
  | [] => opened
  | c :: cs => max opened (deepest (place.next c) (place.openBehind c opened) cs)

/-- How many brackets of a text are open at its deepest place. -/
def openBrackets (s : String) : Nat := deepest .outside 0 s.toList

/-- What is left of a text lies no deeper than the text, after `k` more brackets have been closed. -/
def Closes (k : Nat) (cs rest : List Char) : Prop :=
  ∀ n, deepest .outside n rest ≤ deepest .outside (n + k) cs

theorem le_deepest (place : Place) (opened : Nat) (cs : List Char) :
    opened ≤ deepest place opened cs := by
  cases cs with
  | nil => exact Nat.le_refl opened
  | cons c cs => exact Nat.le_max_left _ _

theorem deepest_tail (place : Place) (opened : Nat) (c : Char) (cs : List Char) :
    deepest (place.next c) (place.openBehind c opened) cs ≤ deepest place opened (c :: cs) :=
  Nat.le_max_right _ _

theorem closes_refl (cs : List Char) : Closes 0 cs cs := fun _ => Nat.le_refl _

variable {k : Nat} {cs ds rest : List Char}

theorem Closes.trans (h : Closes 0 cs ds) (h' : Closes k ds rest) : Closes k cs rest :=
  fun n => Nat.le_trans (h' n) (h (n + k))

def Plain (c : Char) : Prop := c ∉ ['"', '[', ']', '\x7b', '\x7d']

instance (c : Char) : Decidable (Plain c) := inferInstanceAs (Decidable (c ∉ _))

theorem deepest_plain {c : Char} (hc : Plain c) (n : Nat) (cs : List Char) :
    deepest .outside n cs ≤ deepest .outside n (c :: cs) := by
  have htail := deepest_tail .outside n c cs
  simp only [Plain, List.mem_cons, List.not_mem_nil, not_or] at hc
  simpa only [Place.next, Place.openBehind, hc, or_self, if_false] using htail

theorem closes_plain {c : Char} (hc : Plain c) (h : Closes k cs rest) : Closes k (c :: cs) rest :=
  fun n => Nat.le_trans (h n) (deepest_plain hc (n + k) cs)

theorem closes_append {pre : List Char} (hpre : ∀ c ∈ pre, Plain c) (h : Closes k cs rest) :
    Closes k (pre ++ cs) rest := by
  induction pre with
  | nil => exact h
  | cons c pre ih =>
    rw [List.forall_mem_cons] at hpre
    exact closes_plain hpre.1 (ih hpre.2)

theorem closes_dropWhile {p : Char → Bool} (hp : ∀ c, p c = true → Plain c) (cs : List Char) :
    Closes 0 cs (cs.dropWhile p) := by
  induction cs with
  | nil => exact closes_refl []
  | cons c cs ih =>
    rw [List.dropWhile_cons]
    split
    · rename_i hc
      exact closes_plain (hp c hc) ih
    · exact closes_refl (c :: cs)

theorem deepest_open {c : Char} (hc : c = '[' ∨ c = '\x7b') (n : Nat) (cs : List Char) :
    deepest .outside (n + 1) cs ≤ deepest .outside n (c :: cs) := by
  have htail := deepest_tail .outside n c cs
  have hq : c ≠ '"' := by rcases hc with rfl | rfl <;> decide
  simpa only [Place.next, Place.openBehind, hq, hc, if_false, if_true] using htail

theorem closes_open {c : Char} (hc : c = '[' ∨ c = '\x7b') (h : Closes (k + 1) cs rest) :
    Closes k (c :: cs) rest :=
  fun n => Nat.le_trans (h n) (deepest_open hc (n + k) cs)

theorem closes_close {c : Char} (hc : c = ']' ∨ c = '\x7d') (h : Closes k cs rest) :
    Closes (k + 1) (c :: cs) rest := by
  intro n
  have htail := deepest_tail .outside (n + (k + 1)) c cs
  have hq : c ≠ '"' ∧ c ≠ '[' ∧ c ≠ '\x7b' := by rcases hc with rfl | rfl <;> decide
  have hcount : n + (k + 1) - 1 = n + k := by omega
  simp only [Place.next, Place.openBehind, hq, hc, or_self, if_false, if_true, hcount] at htail
  exact Nat.le_trans (h n) htail

theorem plain_space {c : Char} (h : isSpace c = true) : Plain c := by
  simp only [isSpace, Bool.or_eq_true, decide_eq_true_eq] at h
  rcases h with ((rfl | rfl) | rfl) | rfl <;> decide

theorem closes_skipSpace (cs : List Char) : Closes 0 cs (skipSpace cs) :=
  closes_dropWhile (fun _ => plain_space) cs

theorem closes_of_skipSpace (h : skipSpace cs = ds) (h' : Closes k ds rest) : Closes k cs rest :=
  (h ▸ closes_skipSpace cs).trans h'

theorem deepest_quoted {c : Char} (hq : c ≠ '"') (hb : c ≠ '\\') (n : Nat) (cs : List Char) :
    deepest .quoted n cs ≤ deepest .quoted n (c :: cs) := by
  have htail := deepest_tail .quoted n c cs
  simpa only [Place.next, Place.openBehind, hq, hb, if_false] using htail

theorem deepest_escape (c : Char) (n : Nat) (cs : List Char) :
    deepest .quoted n cs ≤ deepest .quoted n ('\\' :: c :: cs) :=
  Nat.le_trans (deepest_tail .escaped n c cs) (deepest_tail .quoted n '\\' (c :: cs))

theorem deepest_quote (n : Nat) (cs : List Char) :
    deepest .outside n cs ≤ deepest .quoted n ('"' :: cs) :=
  deepest_tail .quoted n '"' cs

theorem not_quote_of_digit {c : Char} {value : Nat} (h : Text.digitValue? c = some value) :
    c ≠ '"' ∧ c ≠ '\\' := by
  have hnone : Text.digitValue? '"' = none ∧ Text.digitValue? '\\' = none := by decide
  constructor
  · rintro rfl
    rw [hnone.1] at h
    cases h
  · rintro rfl
    rw [hnone.2] at h
    cases h

theorem deepest_hex {a b c d : Char} {m : Nat} (h : hex4? a b c d = some m) (n : Nat)
    (cs : List Char) :
    deepest .quoted n cs ≤ deepest .quoted n ('\\' :: 'u' :: a :: b :: c :: d :: cs) := by
  simp only [hex4?, Option.bind_eq_bind, Option.bind_eq_some_iff] at h
  obtain ⟨p, ha, q, hb, r, hc, s, hd, -⟩ := h
  obtain ⟨ha, ha'⟩ := not_quote_of_digit ha
  obtain ⟨hb, hb'⟩ := not_quote_of_digit hb
  obtain ⟨hc, hc'⟩ := not_quote_of_digit hc
  obtain ⟨hd, hd'⟩ := not_quote_of_digit hd
  calc deepest .quoted n cs ≤ deepest .quoted n (d :: cs) := deepest_quoted hd hd' n cs
    _ ≤ deepest .quoted n (c :: d :: cs) := deepest_quoted hc hc' n _
    _ ≤ deepest .quoted n (b :: c :: d :: cs) := deepest_quoted hb hb' n _
    _ ≤ deepest .quoted n (a :: b :: c :: d :: cs) := deepest_quoted ha ha' n _
    _ ≤ deepest .quoted n ('\\' :: 'u' :: a :: b :: c :: d :: cs) := deepest_escape 'u' n _

theorem consChar_eq_ok {c : Char} {r : Except DecodeError (List Char × List Char)} {s : List Char}
    (h : consChar c r = .ok (s, rest)) : ∃ s', r = .ok (s', rest) ∧ s = c :: s' := by
  cases r with
  | error e => cases h
  | ok p =>
    cases h
    exact ⟨_, rfl, rfl⟩

theorem ne_backslash {c : Char} {cs : List Char} (hnil : c = '\\' → cs = [] → False)
    (hcons : ∀ d ds, c = '\\' → cs = d :: ds → False) : c ≠ '\\' := by
  intro hc
  cases cs with
  | nil => exact hnil hc rfl
  | cons d ds => exact hcons d ds hc rfl

theorem deepest_readChars {s : List Char} (h : readChars cs = .ok (s, rest)) (n : Nat) :
    deepest .outside n rest ≤ deepest .quoted n cs := by
  fun_induction readChars cs generalizing s with
  | case5 a b c d m hm _ _ e f g h' tail l hl _ ih =>
    obtain ⟨s', hs', -⟩ := consChar_eq_ok h
    exact Nat.le_trans (ih hs') (Nat.le_trans (deepest_hex hl n tail) (deepest_hex hm n _))
  | case11 a b c d tail m hm _ _ ih =>
    obtain ⟨s', hs', -⟩ := consChar_eq_ok h
    exact Nat.le_trans (ih hs') (deepest_hex hm n tail)
  | case15 c tail _ _ e _ ih =>
    obtain ⟨s', hs', -⟩ := consChar_eq_ok h
    exact Nat.le_trans (ih hs') (deepest_escape c n tail)
  | case16 =>
    cases h
    exact deepest_quote n _
  | case18 c tail _ _ hnil hcons hq _ ih =>
    obtain ⟨s', hs', -⟩ := consChar_eq_ok h
    exact Nat.le_trans (ih hs') (deepest_quoted hq (ne_backslash hnil hcons) n tail)
  | _ => cases h

theorem deepest_skipChars (h : skipChars cs = .ok rest) (n : Nat) :
    deepest .outside n rest ≤ deepest .quoted n cs := by
  fun_induction skipChars cs with
  | case2 a b c d tail hm ih =>
    obtain ⟨m, hm⟩ := Option.isSome_iff_exists.mp hm
    exact Nat.le_trans (ih h) (deepest_hex hm n tail)
  | case6 c tail _ _ _ ih => exact Nat.le_trans (ih h) (deepest_escape c n tail)
  | case8 =>
    cases h
    exact deepest_quote n _
  | case10 c tail _ _ hnil hcons hq _ ih =>
    exact Nat.le_trans (ih h) (deepest_quoted hq (ne_backslash hnil hcons) n tail)
  | _ => cases h

theorem closes_quoted (hstring : ∀ n, deepest .outside n ds ≤ deepest .quoted n cs)
    (h : Closes k ds rest) : Closes k ('"' :: cs) rest := fun n =>
  Nat.le_trans (h n) (Nat.le_trans (hstring (n + k)) (deepest_tail .outside (n + k) '"' cs))

theorem closes_readString {s : String} (h : readString cs = .ok (s, rest)) :
    Closes 0 ('"' :: cs) rest := by
  obtain ⟨p, hp, hrest⟩ := map_eq_ok.mp h
  cases hrest
  exact closes_quoted (deepest_readChars hp) (closes_refl _)

theorem readWord_eq_ok {ws : List Char} (h : readWord ws cs = .ok rest) : cs = ws ++ rest := by
  fun_induction readWord ws cs with
  | case1 =>
    cases h
    rfl
  | case3 w ws cs ih => rw [ih h, List.cons_append]
  | _ => cases h

theorem plain_digit {c : Char} (h : isDigit c = true) : Plain c := by
  have hne := (number_char (.inr h)).2
  simp only [List.mem_cons, not_or] at hne
  simp only [Plain, List.mem_cons, List.not_mem_nil, not_or]
  exact ⟨hne.2.2.2.1, hne.2.2.2.2.1, hne.2.2.2.2.2.2.1, hne.2.2.2.2.2.1, hne.2.2.2.2.2.2.2.1,
    not_false⟩

theorem closes_readDigits (cs : List Char) : Closes 0 cs (readDigits cs).2 :=
  closes_dropWhile (fun _ => plain_digit) cs

theorem closes_readDigits1 {ns : List Nat} (h : readDigits1 cs = .ok (ns, rest)) :
    Closes 0 cs rest := by
  unfold readDigits1 at h
  split at h
  · cases h
  · split at h
    · cases h
      exact closes_readDigits _
    · cases h

theorem closes_readWhole {ns : List Nat} (h : readWhole cs = .ok (ns, rest)) : Closes 0 cs rest := by
  unfold readWhole at h
  split at h
  · split at h
    · cases h
    · cases h
      exact closes_plain (by decide) (closes_refl _)
  · exact closes_readDigits1 h

theorem closes_readFraction {ns : Option (List Nat)} (h : readFraction cs = .ok (ns, rest)) :
    Closes 0 cs rest := by
  unfold readFraction at h
  split at h
  · obtain ⟨p, hp, hrest⟩ := map_eq_ok.mp h
    cases hrest
    exact closes_plain (by decide) (closes_readDigits1 hp)
  · cases h
    exact closes_refl cs

theorem closes_readExponent {ns : Option (Bool × List Nat)} (h : readExponent cs = .ok (ns, rest)) :
    Closes 0 cs rest := by
  have hdigits : ∀ {negative : Bool} {ds : List Char},
      (readDigits1 ds).map (fun p => (some (negative, p.1), p.2)) = .ok (ns, rest) →
        Closes 0 ds rest := by
    intro negative ds hd
    obtain ⟨p, hp, hrest⟩ := map_eq_ok.mp hd
    cases hrest
    exact closes_readDigits1 hp
  unfold readExponent at h
  dsimp only at h
  split at h
  · rename_i c cs
    split at h
    · rename_i hc
      have hplain : Plain c := by
        simp only [Bool.or_eq_true, decide_eq_true_eq] at hc
        rcases hc with rfl | rfl <;> decide
      split at h
      · exact closes_plain hplain (closes_plain (by decide) (hdigits h))
      · exact closes_plain hplain (closes_plain (by decide) (hdigits h))
      · exact closes_plain hplain (hdigits h)
    · cases h
      exact closes_refl _
  · cases h
    exact closes_refl _

theorem closes_readSpelling {spelling : Spelling} (h : readSpelling cs = .ok (spelling, rest)) :
    Closes 0 cs rest := by
  unfold readSpelling at h
  split at h
  rename_i negative ds hsign
  have hds : Closes 0 cs ds := by
    split at hsign
    · cases hsign
      exact closes_plain (by decide) (closes_refl _)
    · cases hsign
      exact closes_refl _
  obtain ⟨⟨whole, es⟩, hwhole, h⟩ := bind_eq_ok.mp h
  obtain ⟨⟨fraction, fs⟩, hfraction, h⟩ := bind_eq_ok.mp h
  obtain ⟨⟨exponent, gs⟩, hexponent, h⟩ := bind_eq_ok.mp h
  cases h
  exact hds.trans ((closes_readWhole hwhole).trans
    ((closes_readFraction hfraction).trans (closes_readExponent hexponent)))

theorem closes_skipNumber (h : skipNumber cs = .ok rest) : Closes 0 cs rest := by
  unfold skipNumber at h
  split at h
  · rename_i hspelling
    cases h
    exact closes_readSpelling hspelling
  · cases h

theorem closes_readWord {w : Char} {ws : List Char} (hplain : (w :: ws).all Plain = true)
    (h : readWord ws cs = .ok rest) : Closes 0 (w :: cs) rest := by
  rw [List.all_eq_true] at hplain
  rw [readWord_eq_ok h]
  exact closes_append (fun c hc => of_decide_eq_true (hplain c hc)) (closes_refl rest)

theorem closes_skipScalar (h : skipScalar cs = .ok rest) : Closes 0 cs rest := by
  unfold skipScalar at h
  split at h
  · cases h
  · exact closes_readWord rfl h
  · exact closes_readWord rfl h
  · exact closes_readWord rfl h
  · exact closes_quoted (deepest_skipChars h) (closes_refl rest)
  · split at h
    · exact closes_skipNumber h
    · cases h

theorem closes_skipKey (h : skipKey cs = .ok rest) : Closes 0 cs rest := by
  unfold skipKey at h
  split at h
  · cases h
  · rename_i ds hspace
    obtain ⟨es, hchars, h⟩ := bind_eq_ok.mp h
    refine closes_of_skipSpace hspace (closes_quoted (deepest_skipChars hchars) ?_)
    split at h
    · cases h
    · rename_i hcolon
      cases h
      exact closes_of_skipSpace hcolon (closes_plain (by decide) (closes_refl _))
    · cases h
  · cases h

theorem closes_skipWithin {n : Nat} {after : Bool} {opened : List Bracket}
    (h : skipWithin n after opened cs = .ok rest) : Closes opened.length cs rest := by
  fun_induction skipWithin n after opened cs with
  | case3 _ opened cs ds hopen es hclose ih =>
    exact closes_of_skipSpace hopen
      (closes_open (.inl rfl) (closes_of_skipSpace hclose (closes_close (.inl rfl) (ih h))))
  | case4 _ opened cs ds hopen _ _ ih =>
    exact closes_of_skipSpace hopen (closes_open (.inl rfl) (closes_of_skipSpace rfl (ih h)))
  | case6 _ opened cs ds hopen es hclose ih =>
    exact closes_of_skipSpace hopen
      (closes_open (.inr rfl) (closes_of_skipSpace hclose (closes_close (.inr rfl) (ih h))))
  | case7 _ opened cs ds hopen _ _ ih =>
    obtain ⟨es, hkey, h⟩ := bind_eq_ok.mp h
    exact closes_of_skipSpace hopen
      (closes_open (.inr rfl) (closes_of_skipSpace rfl ((closes_skipKey hkey).trans (ih es h))))
  | case8 _ opened cs _ _ ih =>
    obtain ⟨es, hscalar, h⟩ := bind_eq_ok.mp h
    exact closes_of_skipSpace rfl ((closes_skipScalar hscalar).trans (ih es h))
  | case9 =>
    cases h
    exact closes_refl _
  | case11 _ opened cs ds hclose ih =>
    exact closes_of_skipSpace hclose (closes_close (.inl rfl) (ih h))
  | case12 _ opened cs ds hcomma ih =>
    exact closes_of_skipSpace hcomma (closes_plain (by decide) (ih h))
  | case15 _ opened cs ds hclose ih =>
    exact closes_of_skipSpace hclose (closes_close (.inr rfl) (ih h))
  | case16 _ opened cs ds hcomma ih =>
    obtain ⟨es, hkey, h⟩ := bind_eq_ok.mp h
    exact closes_of_skipSpace hcomma
      (closes_plain (by decide) ((closes_skipKey hkey).trans (ih es h)))
  | _ => cases h

theorem closes_skipValue (h : skipValue cs = .ok rest) : Closes 0 cs rest :=
  closes_skipWithin h

end GraphBrowser.Json
