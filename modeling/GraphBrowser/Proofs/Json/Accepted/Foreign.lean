import GraphBrowser.Proofs.Json.Accepted.Verbatim
import GraphBrowser.Proofs.Json.Local.Skip

namespace GraphBrowser.Json

variable {cs ds rest : List Char}

/-- A text that closes the open brackets. The flag tells whether it begins after a value or with one. -/
inductive Passed : Bool → List Bracket → List Char → Prop
  | done : Passed true [] []
  | list {opened : List Bracket} {body t : List Char} : AnyItems body → Passed true opened t →
    Passed true (.list :: opened) (body ++ t)
  | object {opened : List Bracket} {body t : List Char} : AnyMembers body → Passed true opened t →
    Passed true (.object :: opened) (body ++ t)
  | value {opened : List Bracket} {w x t : List Char} : Blank w → AnyValue x → Passed true opened t →
    Passed false opened (w ++ (x ++ t))

theorem any_of_skipScalar (h : skipScalar cs = .ok rest) : ∃ x, AnyValue x ∧ cs = x ++ rest := by
  unfold skipScalar at h
  split at h
  · cases h
  · exact ⟨_, .null, congrArg _ (readWord_eq_ok h)⟩
  · exact ⟨_, .yes, congrArg _ (readWord_eq_ok h)⟩
  · exact ⟨_, .no, congrArg _ (readWord_eq_ok h)⟩
  · obtain ⟨text, htext, rfl⟩ := rawChars_of_skip h
    exact ⟨_, .string htext, rfl⟩
  · split at h
    · obtain ⟨text, htext, hcs⟩ := number_of_skip h
      exact ⟨text, .number htext, hcs⟩
    · cases h

theorem member_of_skipKey (h : skipKey cs = .ok ds) : ∃ w k, Blank w ∧ cs = w ++ (k ++ ds) ∧
    ∀ {w' x}, Blank w' → AnyValue x → AnyMember (k ++ (w' ++ x)) := by
  unfold skipKey at h
  split at h
  · cases h
  · rename_i hquote
    obtain ⟨es, hchars, h⟩ := bind_eq_ok.mp h
    split at h
    · cases h
    · rename_i hcolon
      cases h
      obtain ⟨w, hw, rfl⟩ := blank_of_skipSpace hquote
      obtain ⟨key, hkey, rfl⟩ := rawChars_of_skip hchars
      obtain ⟨v, hv, rfl⟩ := blank_of_skipSpace hcolon
      refine ⟨w, '"' :: (key ++ (v ++ [':'])), hw, by simp, fun hw' hx => ?_⟩
      simpa using AnyMember.member hkey hv hw' hx
    · cases h
  · cases h

theorem Passed.spaced {opened : List Bracket} {v t : List Char} (hv : Blank v)
    (h : Passed false opened t) : Passed false opened (v ++ t) := by
  cases h with
  | value hw hx h => simpa using Passed.value (blank_append hv hw) hx h

theorem Passed.listed {opened : List Bracket} {w t : List Char} (hw : Blank w)
    (h : Passed false (.list :: opened) t) : Passed false opened (w ++ '[' :: t) := by
  cases h with
  | value hv hx h =>
    cases h with
    | list hbody h => simpa using Passed.value hw (.list hv hx hbody) h

theorem Passed.comma {opened : List Bracket} {w t : List Char} (hw : Blank w)
    (h : Passed false (.list :: opened) t) : Passed true (.list :: opened) (w ++ ',' :: t) := by
  cases h with
  | value hv hx h =>
    cases h with
    | list hbody h => simpa using Passed.list (.comma hw hv hx hbody) h

theorem Passed.keyed {opened : List Bracket} {w v k t : List Char} (hw : Blank w) (hv : Blank v)
    (hk : ∀ {w' x}, Blank w' → AnyValue x → AnyMember (k ++ (w' ++ x)))
    (h : Passed false (.object :: opened) t) :
    Passed false opened (w ++ '\x7b' :: (v ++ (k ++ t))) := by
  cases h with
  | value hu hx h =>
    cases h with
    | object hbody h => simpa using Passed.value hw (.object hv (hk hu hx) hbody) h

theorem Passed.keyedComma {opened : List Bracket} {w v k t : List Char} (hw : Blank w) (hv : Blank v)
    (hk : ∀ {w' x}, Blank w' → AnyValue x → AnyMember (k ++ (w' ++ x)))
    (h : Passed false (.object :: opened) t) :
    Passed true (.object :: opened) (w ++ ',' :: (v ++ (k ++ t))) := by
  cases h with
  | value hu hx h =>
    cases h with
    | object hbody h => simpa using Passed.object (.comma hw hv (hk hu hx) hbody) h

theorem passed_of_skipWithin {n : Nat} {after : Bool} {opened : List Bracket}
    (h : skipWithin n after opened cs = .ok rest) :
    ∃ text, Passed after opened text ∧ cs = text ++ rest := by
  fun_induction skipWithin n after opened cs with
  | case3 _ opened cs ds hopen es hclose ih =>
    obtain ⟨w, hw, rfl⟩ := blank_of_skipSpace hopen
    obtain ⟨v, hv, rfl⟩ := blank_of_skipSpace hclose
    obtain ⟨text, htext, rfl⟩ := ih h
    exact ⟨_, .value hw (.emptyList hv) htext, by simp⟩
  | case4 _ opened cs ds hopen _ _ ih =>
    obtain ⟨w, hw, rfl⟩ := blank_of_skipSpace hopen
    obtain ⟨text, htext, hspace⟩ := ih h
    obtain ⟨v, hv, rfl⟩ := blank_of_skipSpace hspace
    exact ⟨_, (htext.spaced hv).listed hw, by simp⟩
  | case6 _ opened cs ds hopen es hclose ih =>
    obtain ⟨w, hw, rfl⟩ := blank_of_skipSpace hopen
    obtain ⟨v, hv, rfl⟩ := blank_of_skipSpace hclose
    obtain ⟨text, htext, rfl⟩ := ih h
    exact ⟨_, .value hw (.emptyObject hv) htext, by simp⟩
  | case7 _ opened cs ds hopen _ _ ih =>
    obtain ⟨es, hkey, hbehind⟩ := bind_eq_ok.mp h
    obtain ⟨w, hw, rfl⟩ := blank_of_skipSpace hopen
    obtain ⟨v, k, hv, hspace, hmember⟩ := member_of_skipKey hkey
    obtain ⟨u, hu, rfl⟩ := blank_of_skipSpace hspace
    obtain ⟨text, htext, rfl⟩ := ih es hbehind
    exact ⟨_, htext.keyed hw (blank_append hu hv) hmember, by simp⟩
  | case8 _ opened cs _ _ ih =>
    obtain ⟨es, hscalar, hbehind⟩ := bind_eq_ok.mp h
    obtain ⟨x, hx, hcs⟩ := any_of_skipScalar hscalar
    obtain ⟨w, hw, rfl⟩ := blank_of_skipSpace hcs
    obtain ⟨text, htext, rfl⟩ := ih es hbehind
    exact ⟨_, .value hw hx htext, by simp⟩
  | case9 =>
    cases h
    exact ⟨[], .done, rfl⟩
  | case11 _ opened cs ds hclose ih =>
    obtain ⟨w, hw, rfl⟩ := blank_of_skipSpace hclose
    obtain ⟨text, htext, rfl⟩ := ih h
    exact ⟨_, .list (.close hw) htext, by simp⟩
  | case12 _ opened cs ds hcomma ih =>
    obtain ⟨w, hw, rfl⟩ := blank_of_skipSpace hcomma
    obtain ⟨text, htext, rfl⟩ := ih h
    exact ⟨_, htext.comma hw, by simp⟩
  | case15 _ opened cs ds hclose ih =>
    obtain ⟨w, hw, rfl⟩ := blank_of_skipSpace hclose
    obtain ⟨text, htext, rfl⟩ := ih h
    exact ⟨_, .object (.close hw) htext, by simp⟩
  | case16 _ opened cs ds hcomma ih =>
    obtain ⟨es, hkey, hbehind⟩ := bind_eq_ok.mp h
    obtain ⟨w, hw, rfl⟩ := blank_of_skipSpace hcomma
    obtain ⟨v, k, hv, rfl, hmember⟩ := member_of_skipKey hkey
    obtain ⟨text, htext, rfl⟩ := ih es hbehind
    exact ⟨_, htext.keyedComma hw hv hmember, by simp⟩
  | _ => cases h

theorem any_of_skipValue (h : skipValue cs = .ok rest) :
    ∃ w x, Blank w ∧ AnyValue x ∧ cs = w ++ (x ++ rest) := by
  obtain ⟨text, htext, rfl⟩ := passed_of_skipWithin h
  cases htext with
  | value hw hx htext =>
    cases htext
    exact ⟨_, _, hw, hx, by simp⟩

end GraphBrowser.Json
