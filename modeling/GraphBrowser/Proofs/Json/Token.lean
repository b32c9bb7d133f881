import GraphBrowser.Proofs.Json.Spelling
import Mathlib.Algebra.Group.Int.Defs
import Mathlib.Algebra.Group.Nat.Defs

namespace GraphBrowser.Json

theorem readChars_plain {c : Char} (h : 0x20 ≤ c.toNat) (hq : c ≠ '"') (hb : c ≠ '\\')
    (cs : List Char) : readChars (c :: cs) = consChar c (readChars cs) := by
  rw [readChars.eq_6 c cs (fun _ _ _ _ _ h _ => hb h) (fun _ h _ => hb h) (fun h _ => hb h)
    (fun _ _ h _ => hb h), if_neg hq, if_neg (Nat.not_lt.mpr h)]

theorem readChars_short {letter c : Char} (h : (letter, c) ∈ shortEscapes) (cs : List Char) :
    readChars ('\\' :: letter :: cs) = consChar c (readChars cs) := by
  obtain ⟨he, hu⟩ := shortEscape_mem h
  rw [readChars.eq_5 letter cs (fun _ _ _ _ _ h _ => hu h) hu, he]

theorem not_surrogate (c : Char) :
    isLowSurrogate c.toNat = false ∧ isHighSurrogate c.toNat = false := by
  have hc : c.toNat < 0xd800 ∨ 0xdfff < c.toNat ∧ c.toNat < 0x110000 := c.valid
  simp only [isLowSurrogate, isHighSurrogate, Bool.and_eq_false_iff, decide_eq_false_iff_not]
  omega

theorem readChars_hex {c : Char} {ds : List Char} (h : Hex4 ds c.toNat) (cs : List Char) :
    readChars ('\\' :: 'u' :: (ds ++ cs)) = consChar c (readChars cs) := by
  obtain ⟨a, b, d, e, rfl, hn⟩ := hex4_digits h
  obtain ⟨hlow, hhigh⟩ := not_surrogate c
  simp only [List.cons_append, List.nil_append]
  rw [readChars.eq_2]
  simp [hn, hlow, hhigh]

theorem readChars_pair {c : Char} {ds es : List Char} {high low : Nat}
    (hd : Hex4 ds (0xd800 + high)) (he : Hex4 es (0xdc00 + low)) (hh : high < 0x400)
    (hl : low < 0x400) (hc : c.toNat = 0x10000 + high * 0x400 + low) (cs : List Char) :
    readChars ('\\' :: 'u' :: (ds ++ '\\' :: 'u' :: (es ++ cs))) = consChar c (readChars cs) := by
  obtain ⟨a, b, d, e, rfl, hn⟩ := hex4_digits hd
  obtain ⟨f, g, i, j, rfl, hm⟩ := hex4_digits he
  have hnl : isLowSurrogate (0xd800 + high) = false := by
    simp [isLowSurrogate]
    omega
  have hnh : isHighSurrogate (0xd800 + high) = true := by
    simp [isHighSurrogate]
    omega
  have hml : isLowSurrogate (0xdc00 + low) = true := by
    simp [isLowSurrogate]
    omega
  have hp : surrogatePair (0xd800 + high) (0xdc00 + low) = c := by
    rw [surrogatePair, Nat.add_sub_cancel_left, Nat.add_sub_cancel_left, ← hc, Char.ofNat_toNat]
  simp only [List.cons_append, List.nil_append]
  rw [readChars.eq_2]
  simp [hn, hm, hnl, hnh, hml, hp]

theorem readChars_char {c : Char} {x : List Char} (h : CharText c x) (cs : List Char) :
    readChars (x ++ cs) = consChar c (readChars cs) := by
  cases h with
  | plain hc hq hb => exact readChars_plain hc hq hb cs
  | short he => exact readChars_short he cs
  | hex hd => exact readChars_hex hd cs
  | pair hd he hh hl hc => simpa using readChars_pair hd he hh hl hc cs

theorem readChars_text {s body : List Char} (h : CharsText s body) (rest : List Char) :
    readChars (body ++ rest) = .ok (s, rest) := by
  induction h with
  | quote => simp [readChars]
  | char hx _ ih => rw [List.append_assoc, readChars_char hx, ih]; rfl

theorem readString_text {s : String} {body : List Char} (h : CharsText s.toList body)
    (rest : List Char) : readString (body ++ rest) = .ok (s, rest) := by
  rw [readString, readChars_text h]
  exact congrArg (fun t => Except.ok (t, rest)) (String.ofList_toList)

theorem readDigits_text {ds rest : List Char} (hd : ∀ c ∈ ds, isDigit c = true)
    (hr : ∀ c ∈ rest.head?, isDigit c = false) :
    readDigits (ds ++ rest) = (ds.map digitValue, rest) := by
  have htake : rest.takeWhile isDigit = [] := by
    cases rest with
    | nil => rfl
    | cons c rest => simp [hr c rfl]
  have hdrop : rest.dropWhile isDigit = rest := by
    cases rest with
    | nil => rfl
    | cons c rest => simp [hr c rfl]
  rw [readDigits, List.takeWhile_append_of_pos hd, List.dropWhile_append_of_pos hd, htake, hdrop,
    List.append_nil]

theorem readDigits1_text {ds rest : List Char} (hd : Digits ds)
    (hr : ∀ c ∈ rest.head?, isDigit c = false) :
    readDigits1 (ds ++ rest) = .ok (ds.map digitValue, rest) := by
  obtain ⟨hne, hall⟩ := hd
  cases ds with
  | nil => exact absurd rfl hne
  | cons c ds =>
    have hc : isDigit c = true := hall c (by simp)
    rw [← readDigits_text hall hr]
    simp [readDigits1, hc]

theorem readWhole_text {ws rest : List Char} (hw : WholeText ws)
    (hr : ∀ c ∈ rest.head?, isDigit c = false) :
    readWhole (ws ++ rest) = .ok (ws.map digitValue, rest) := by
  rcases hw with rfl | ⟨hd, hz⟩
  · cases rest with
    | nil => rfl
    | cons c rest => simp [readWhole, hr c rfl, digitValue]
  · rw [← readDigits1_text hd hr]
    cases ws with
    | nil => exact absurd rfl hd.1
    | cons c ws =>
      have hc : c ≠ '0' := by
        rintro rfl
        exact hz rfl
      rw [List.cons_append, readWhole]
      intro d cs h
      exact hc (List.cons.inj h).1

def fractionDigits : List Char → Option (List Nat)
  | [] => none
  | _ :: ds => some (ds.map digitValue)

theorem readFraction_text {fs rest : List Char} (hf : FractionText fs)
    (hr : ∀ c ∈ rest.head?, isDigit c = false ∧ c ≠ '.') :
    readFraction (fs ++ rest) = .ok (fractionDigits fs, rest) := by
  cases hf with
  | none =>
    rw [List.nil_append, readFraction]
    · rfl
    · intro cs h
      exact (hr '.' (by rw [h]; rfl)).2 rfl
  | @point ds hd =>
    rw [List.cons_append, readFraction, readDigits1_text hd (fun c hc => (hr c hc).1)]
    rfl

def exponentDigits : List Char → Option (Bool × List Nat)
  | [] => none
  | _ :: '+' :: ds => some (false, ds.map digitValue)
  | _ :: '-' :: ds => some (true, ds.map digitValue)
  | _ :: ds => some (false, ds.map digitValue)

theorem readExponent_text {es rest : List Char} (he : ExponentText es) (hr : Ended rest) :
    readExponent (es ++ rest) = .ok (exponentDigits es, rest) := by
  have hdigit : ∀ c ∈ rest.head?, isDigit c = false := fun c hc => (hr c hc).1
  cases he with
  | none =>
    cases rest with
    | nil => rfl
    | cons c rest =>
      obtain ⟨_, _, h1, h2⟩ := hr c rfl
      simp [readExponent, exponentDigits, h1, h2]
  | @unsigned e ds hE hd =>
    have hdigits := readDigits1_text hd hdigit
    obtain ⟨d, ds, rfl⟩ := List.exists_cons_of_ne_nil hd.1
    have hd0 : isDigit d = true := hd.2 d (by simp)
    have hplus : d ≠ '+' := by
      rintro rfl
      exact absurd hd0 (by decide)
    have hminus : d ≠ '-' := by
      rintro rfl
      exact absurd hd0 (by decide)
    have hE' : (decide (e = 'e') || decide (e = 'E')) = true := by simpa using hE
    simp only [readExponent, List.cons_append, hE', if_true]
    rw [← List.cons_append, hdigits]
    simp [exponentDigits, hplus, hminus, Except.map]
  | @signed e sign ds hE hs hd =>
    have hdigits := readDigits1_text hd hdigit
    rcases hs with rfl | rfl
    · simp [readExponent, exponentDigits, hE, hdigits]
      rfl
    · simp [readExponent, exponentDigits, hE, hdigits]
      rfl

theorem exponent_head {es rest : List Char} (he : ExponentText es) (hr : Ended rest) :
    ∀ c ∈ (es ++ rest).head?, isDigit c = false ∧ c ≠ '.' := by
  cases he with
  | none => exact fun c hc => ⟨(hr c hc).1, (hr c hc).2.1⟩
  | unsigned hE _ | signed hE _ _ =>
    intro c hc
    cases hc
    rcases hE with rfl | rfl <;> decide

theorem fraction_head {fs rest : List Char} (hf : FractionText fs)
    (hr : ∀ c ∈ rest.head?, isDigit c = false) : ∀ c ∈ (fs ++ rest).head?, isDigit c = false := by
  cases hf with
  | none => exact hr
  | point _ =>
    intro c hc
    cases hc
    decide

theorem whole_head {ws : List Char} (hw : WholeText ws) : ∃ c cs, ws = c :: cs ∧ isDigit c = true := by
  rcases hw with rfl | ⟨hd, _⟩
  · exact ⟨'0', [], rfl, rfl⟩
  · cases ws with
    | nil => exact absurd rfl hd.1
    | cons c cs => exact ⟨c, cs, rfl, hd.2 c (by simp)⟩

def signText (negative : Bool) : List Char := if negative then ['-'] else []

inductive Spelled : List Char → Spelling → Prop
  | parts {negative : Bool} {ws fs es : List Char} : WholeText ws → FractionText fs → ExponentText es →
    Spelled (signText negative ++ (ws ++ (fs ++ es)))
      ⟨negative, ws.map digitValue, fractionDigits fs, exponentDigits es⟩

theorem exists_spelled {cs : List Char} (h : NumberText cs) : ∃ spelling, Spelled cs spelling := by
  cases h with
  | positive hm =>
    cases hm with
    | parts hw hf he => exact ⟨_, @Spelled.parts false _ _ _ hw hf he⟩
  | negative hm =>
    cases hm with
    | parts hw hf he => exact ⟨_, @Spelled.parts true _ _ _ hw hf he⟩

theorem Spelled.number {cs : List Char} {spelling : Spelling} (h : Spelled cs spelling) :
    NumberText cs := by
  cases h with
  | @parts negative ws fs es hw hf he =>
    have hmagnitude : MagnitudeText (ws ++ (fs ++ es)) := .parts hw hf he
    cases negative with
    | true => exact .negative hmagnitude
    | false => exact .positive hmagnitude

theorem readSpelling_text {cs rest : List Char} {spelling : Spelling} (h : Spelled cs spelling)
    (hr : Ended rest) : readSpelling (cs ++ rest) = .ok (spelling, rest) := by
  cases h with
  | @parts negative ws fs es hw hf he =>
    have hes := exponent_head he hr
    have hfraction := readFraction_text hf hes
    have hexponent := readExponent_text he hr
    have hwhole := readWhole_text hw (fraction_head hf fun c hc => (hes c hc).1)
    simp only [List.append_assoc]
    cases negative with
    | true =>
      simp only [signText, if_true, List.cons_append, List.nil_append, readSpelling, hwhole,
        hfraction, hexponent, bind, Except.bind, pure, Except.pure]
    | false =>
      obtain ⟨c, cs, rfl, hc⟩ := whole_head hw
      have hminus : c ≠ '-' := by
        rintro rfl
        exact absurd hc (by decide)
      simp only [List.cons_append] at hwhole
      simp only [signText, Bool.false_eq_true, if_false, List.nil_append, List.cons_append]
      unfold readSpelling
      split
      rename_i heq
      split at heq
      · rename_i h
        exact absurd (List.cons.inj h).1 hminus
      · cases heq
        simp only [hwhole, hfraction, hexponent, bind, Except.bind, pure, Except.pure]

theorem digitChar_ne_zero {d : Nat} (h : 0 < d) (h' : d < 10) : Nat.digitChar d ≠ '0' := by
  have hall : ∀ d < 10, 0 < d → Nat.digitChar d ≠ '0' := by decide
  exact hall d h' h

theorem head_toDigits (n : Nat) (h : 0 < n) : (Nat.toDigits 10 n).head? ≠ some '0' := by
  induction n using Nat.strongRecOn with
  | ind n ih =>
    rw [Nat.toDigits_eq_if (by decide)]
    split
    · simpa using digitChar_ne_zero h (by assumption)
    · have hq := ih (n / 10) (by omega) (by omega)
      cases hd : Nat.toDigits 10 (n / 10) with
      | nil => exact absurd hd Nat.toDigits_ne_nil
      | cons c cs =>
        rw [hd] at hq
        simpa using hq

theorem isDigit_iff (c : Char) : isDigit c = c.isDigit := by
  simp only [isDigit, Char.isDigit, Char.le_def]

theorem whole_toDigits (n : Nat) : WholeText (Nat.toDigits 10 n) := by
  cases n with
  | zero => exact .inl rfl
  | succ n =>
    refine .inr ⟨⟨Nat.toDigits_ne_nil, ?_⟩, head_toDigits _ (Nat.succ_pos n)⟩
    intro c hc
    rw [isDigit_iff]
    exact Nat.isDigit_of_mem_toDigits (by decide) (by decide) hc

theorem ofDigits_toDigits (n : Nat) : ofDigits ((Nat.toDigits 10 n).map digitValue) = n := by
  have h := Nat.ofDigitChars_ten_toDigits (n := n)
  rw [ofDigits, List.foldl_map]
  exact h

theorem intText_eq (n : Int) :
    intText n = signText (decide (n < 0)) ++ Nat.toDigits 10 n.natAbs := by
  by_cases h : n < 0 <;> simp [intText, signText, h]

/-- An integer in its plain spelling is read exactly, up to the limits of 64 bits. -/
theorem readNumber_intText {n : Int} (hlow : -2 ^ 63 ≤ n) (hhigh : n < 2 ^ 64) {rest : List Char}
    (hr : Ended rest) : readNumber (intText n ++ rest) = .ok (.int n, rest) := by
  have hs := readSpelling_text
    (@Spelled.parts (decide (n < 0)) _ _ _ (whole_toDigits n.natAbs) .none .none) hr
  rw [List.append_nil, List.append_nil, ← intText_eq, fractionDigits, exponentDigits] at hs
  have hn : Spelling.number? ⟨decide (n < 0), (Nat.toDigits 10 n.natAbs).map digitValue, none, none⟩ =
      some (.int n) := by
    simp only [Spelling.number?, ofDigits_toDigits]
    by_cases h : n < 0
    · have hb : 0 < n.natAbs ∧ n.natAbs ≤ UInt64.size / 2 := by
        rw [UInt64.size]
        omega
      have hv : -(n.natAbs : Int) = n := by omega
      simp only [h, decide_true, if_true, if_pos hb, hv]
    · have hb : n.natAbs < UInt64.size := by
        rw [UInt64.size]
        omega
      have hv : (n.natAbs : Int) = n := by omega
      simp only [h, decide_false, Bool.false_eq_true, if_false, if_pos hb, hv]
  unfold readNumber
  rw [hs]
  simp only [bind, Except.bind, hn, pure, Except.pure]

theorem numberText_int (n : Int) : NumberText (intText n) := by
  have hm : MagnitudeText (Nat.toDigits 10 n.natAbs) := by
    simpa using MagnitudeText.parts (whole_toDigits n.natAbs) .none .none
  rw [intText_eq]
  by_cases h : n < 0
  · simpa [h, signText] using NumberText.negative hm
  · simpa [h, signText] using NumberText.positive hm

theorem number_head {cs : List Char} (h : NumberText cs) :
    ∃ c t, cs = c :: t ∧ (c = '-' ∨ isDigit c = true) := by
  cases h with
  | positive hm =>
    cases hm with
    | parts hw _ _ =>
      obtain ⟨c, ws, rfl, hc⟩ := whole_head hw
      exact ⟨c, _, rfl, .inr hc⟩
  | negative _ => exact ⟨'-', _, rfl, .inl rfl⟩

theorem number_char {c : Char} (hc : c = '-' ∨ isDigit c = true) :
    isSpace c = false ∧ c ∉ ['n', 't', 'f', '"', '[', '\x7b', ']', '\x7d'] := by
  constructor
  · cases hs : isSpace c with
    | false => rfl
    | true =>
      simp only [isSpace, Bool.or_eq_true, decide_eq_true_eq] at hs
      rcases hs with ((rfl | rfl) | rfl) | rfl <;> revert hc <;> decide
  · intro hm
    simp only [List.mem_cons, List.not_mem_nil, or_false] at hm
    rcases hm with rfl | rfl | rfl | rfl | rfl | rfl | rfl | rfl <;> revert hc <;> decide

end GraphBrowser.Json
