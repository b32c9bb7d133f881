import GraphBrowser.Client.Basic
import GraphBrowser.Proofs.Results
import GraphBrowser.Proofs.Url.Authority

namespace GraphBrowser.Url

open Text (takeWhile_rest exists_dropWhile exists_rdropWhile dropWhile_front rdropWhile_back
  rdropWhile_self)

def isLow (c : Char) : Bool := c.toNat ≤ 0x20

def isKept (c : Char) : Bool := c != '\t' && c != '\n' && c != '\r'

theorem clean_eq (cs : List Char) :
    clean cs = ((cs.dropWhile isLow).rdropWhile isLow).filter isKept := rfl

theorem clean_core {lead core trail : List Char} (hlead : ∀ c ∈ lead, isLow c = true)
    (hhead : ∀ c ∈ (core ++ trail).head?, isLow c = false)
    (hlast : ∀ c ∈ core.getLast?, isLow c = false) (htrail : ∀ c ∈ trail, isLow c = true) :
    clean (lead ++ (core ++ trail)) = core.filter isKept := by
  rw [clean_eq, dropWhile_front hlead hhead, rdropWhile_back hlast htrail]

theorem filter_kept {cs : List Char} (h : ∀ c ∈ cs, isLow c = false) : cs.filter isKept = cs := by
  rw [List.filter_eq_self]
  intro c hc
  have hlow := h c hc
  simp only [isKept, Bool.and_eq_true, bne_iff_ne, ne_eq]
  refine ⟨⟨?_, ?_⟩, ?_⟩ <;> · rintro rfl; exact absurd hlow (by decide)

theorem mem_of_clean {cs : List Char} {c : Char} (h : c ∈ clean cs) : c ∈ cs := by
  rw [clean_eq] at h
  exact (List.dropWhile_sublist _).subset
    ((List.rdropWhile_prefix _ _).subset (List.mem_filter.mp h).1)

theorem clean_tail {lead core tail : List Char} (hlead : ∀ c ∈ lead, isLow c = true)
    (hcore : core ≠ []) (hhead : ∀ c ∈ core.head?, isLow c = false) (hne : tail ≠ [])
    (htail : ∀ c ∈ tail, isLow c = false) :
    clean (lead ++ core ++ tail) = core.filter isKept ++ tail := by
  have hstart : ∀ c ∈ (core ++ tail ++ []).head?, isLow c = false := by
    rwa [List.append_nil, List.head?_append_of_ne_nil _ hcore]
  have hend : ∀ c ∈ (core ++ tail).getLast?, isLow c = false := by
    intro c hc
    rw [List.getLast?_append_of_ne_nil _ hne] at hc
    exact htail c (List.mem_of_getLast? hc)
  rw [List.append_assoc, ← List.append_nil (core ++ tail), clean_core hlead hstart hend nofun,
    List.filter_append, filter_kept htail]

/-- With a tail in the place of the slashes at its end, an address begins with the same text. Only
blanks at its end come in between. -/
theorem clean_appended {base : List Char} (h : ∃ c ∈ clean base, c ≠ '/') :
    ∃ front slashes low, clean base = front ++ slashes ∧ (∀ c ∈ slashes, c = '/') ∧
      (∀ c ∈ low, isLow c = true) ∧ (low = [] ∨ ∃ c ∈ base.getLast?, isLow c = true) ∧
      ∀ tail, tail ≠ [] → (∀ c ∈ tail, isLow c = false) →
        clean (base.rdropWhile (· = '/') ++ tail) = front ++ (low ++ tail) := by
  obtain ⟨lead, rest, rfl, hlead, hhead⟩ := exists_dropWhile isLow base
  obtain ⟨core, trail, rfl, hlast, htrail⟩ := exists_rdropWhile isLow rest
  rw [clean_core hlead hhead hlast htrail] at h ⊢
  obtain ⟨c, hc, hslash⟩ := h
  have hcore : core ≠ [] := by
    rintro rfl
    cases hc
  rw [List.head?_append_of_ne_nil _ hcore] at hhead
  by_cases hempty : trail = []
  · subst hempty
    obtain ⟨body, slashes, rfl, hbody, hslashes⟩ := exists_rdropWhile (· = '/') core
    have hslashes : ∀ c ∈ slashes, c = '/' := fun c hc => of_decide_eq_true (hslashes c hc)
    have hne : body ≠ [] := by
      rintro rfl
      exact hslash (hslashes c (List.mem_filter.mp hc).1)
    have htrim : (lead ++ (body ++ slashes ++ [])).rdropWhile (· = '/') = lead ++ body := by
      rw [List.append_nil, ← List.append_assoc]
      refine rdropWhile_back ?_ (by simpa using hslashes)
      rwa [List.getLast?_append_of_ne_nil _ hne]
    rw [List.head?_append_of_ne_nil _ hne] at hhead
    refine ⟨body.filter isKept, slashes, [], ?_, hslashes, nofun, .inl rfl, ?_⟩
    · have hvisible : ∀ c ∈ slashes, isLow c = false := by
        intro c hc
        rw [hslashes c hc]
        rfl
      rw [List.filter_append, filter_kept hvisible]
    · intro tail hne' htail
      rw [htrim, clean_tail hlead hne hhead hne' htail, List.nil_append]
  · have hend : (lead ++ (core ++ trail)).getLast? = trail.getLast? := by
      rw [← List.append_assoc, List.getLast?_append_of_ne_nil _ hempty]
    have hlow : ∀ c ∈ (lead ++ (core ++ trail)).getLast?, isLow c = true := by
      rw [hend]
      exact fun c hc => htrail c (List.mem_of_getLast? hc)
    have htrim : (lead ++ (core ++ trail)).rdropWhile (· = '/') = lead ++ (core ++ trail) := by
      refine rdropWhile_self fun c hc => ?_
      rw [decide_eq_false_iff_not]
      rintro rfl
      exact absurd (hlow '/' hc) (by decide)
    refine ⟨core.filter isKept, [], trail.filter isKept, (List.append_nil _).symm, nofun,
      fun c hc => htrail c (List.mem_filter.mp hc).1, ?_, ?_⟩
    · have hlast : trail.getLast hempty ∈ (lead ++ (core ++ trail)).getLast? := by
        rw [hend, List.getLast?_eq_some_getLast hempty]
        rfl
      exact .inr ⟨_, hlast, hlow _ hlast⟩
    · intro tail hne' htail
      have hstart : ∀ c ∈ (core ++ trail).head?, isLow c = false := by
        rwa [List.head?_append_of_ne_nil _ hcore]
      rw [htrim, clean_tail hlead (List.append_ne_nil_of_left_ne_nil hcore _) hstart hne' htail,
        List.filter_append, List.append_assoc]

theorem cutScheme_cases {cs rest : List Char} {scheme : String}
    (h : cutScheme? cs = some (scheme, rest)) :
    ∃ name, cs = name ++ ':' :: rest ∧ (∃ c ∈ name, c ≠ '/') ∧
      ∀ more, cutScheme? (name ++ ':' :: more) = some (scheme, more) := by
  have hsplit : cs.takeWhile isSchemeChar ++ cs.dropWhile isSchemeChar = cs :=
    List.takeWhile_append_dropWhile
  unfold cutScheme? at h
  dsimp only at h
  split at h
  · rename_i c name after hname hafter
    split at h
    · rename_i halpha
      injection h with h
      injection h with hscheme hrest
      subst hrest
      have hchars : ∀ d ∈ c :: name, isSchemeChar d = true := by
        rw [← hname]
        exact fun d hd => List.mem_takeWhile_imp hd
      have hcolon : ∀ more, ∀ d ∈ (':' :: more).head?, isSchemeChar d = false := by
        rintro more d ⟨⟩
        rfl
      have htake : (c :: name).takeWhile isSchemeChar = c :: name :=
        List.takeWhile_eq_self_iff.mpr hchars
      rw [hname, hafter] at hsplit
      refine ⟨c :: name, hsplit.symm, ⟨c, List.mem_cons_self, ?_⟩, fun more => ?_⟩
      · rintro rfl
        exact absurd halpha (by decide)
      · rw [cutScheme?]
        simp only [takeWhile_rest (hcolon more), htake, dropWhile_front hchars (hcolon more)]
        rw [if_pos halpha, ← hscheme, hname]
    · cases h
  · cases h

def schemeOf (secure : Bool) : String := if secure then "https" else "http"

theorem parse_of_scheme {s : String} {secure : Bool} {rest : List Char}
    (h : cutScheme? (clean s.toList) = some (schemeOf secure, rest)) :
    parse s = (parseWeb secure rest).map .web := by
  unfold parse
  rw [h]
  cases secure <;> rfl

theorem scheme_of_parse {s : String} {url : Url} (h : parse s = .ok (.web url)) :
    ∃ secure rest, cutScheme? (clean s.toList) = some (schemeOf secure, rest) ∧
      parseWeb secure rest = .ok url := by
  unfold parse at h
  cases hcut : cutScheme? (clean s.toList) with
  | none =>
    rw [hcut] at h
    cases h
  | some cut =>
    obtain ⟨scheme, rest⟩ := cut
    simp only [hcut] at h
    split at h
    · rename_i hscheme
      obtain ⟨u, hu, hweb⟩ := map_eq_ok.mp h
      cases hweb
      exact ⟨false, rest, by rw [hscheme]; rfl, hu⟩
    · split at h
      · rename_i hscheme
        obtain ⟨u, hu, hweb⟩ := map_eq_ok.mp h
        cases hweb
        exact ⟨true, rest, by rw [hscheme]; rfl, hu⟩
      -- An address of any other scheme is only checked.
      · split at h
        · obtain ⟨_, -, hother⟩ := map_eq_ok.mp h
          cases hother
        · split at h
          · obtain ⟨_, -, hother⟩ := map_eq_ok.mp h
            cases hother
          · obtain ⟨_, -, hother⟩ := map_eq_ok.mp h
            cases hother

def isSlash (c : Char) : Bool := c = '/' || c = '\\'

theorem isSlash_open {name : List Char} (h : Open name) : ∀ c ∈ name.head?, isSlash c = false := by
  intro c hc
  have hends := h c (List.mem_of_mem_head? hc)
  simp only [endsAuthority, Bool.true_and, Bool.or_eq_false_iff] at hends
  simp only [isSlash, hends.1.1.1, hends.2, Bool.or_false]

theorem parseWeb_lead (secure : Bool) {lead name behind : List Char}
    (hlead : ∀ c ∈ lead, isSlash c = true)
    (hhead : ∀ c ∈ (name ++ behind).head?, isSlash c = false) (hname : Open name)
    (hbehind : Follows behind) : parseWeb secure (lead ++ (name ++ behind)) =
      (named name).map fun server => addressed secure server behind :=
  parseWeb_named secure (dropWhile_front hlead hhead) hname hbehind

theorem name_ne_nil {name : List Char} {server : User × Host × Option Nat}
    (h : named name = .ok server) : name ≠ [] := by
  rintro rfl
  cases h

theorem server_of_parse {secure : Bool} {front slashes : List Char} {url : Url}
    (h : parseWeb secure (front ++ slashes) = .ok url) (hslashes : ∀ c ∈ slashes, c = '/') :
    ∃ lead name behind server, front = lead ++ (name ++ behind) ∧
      (∀ c ∈ lead, isSlash c = true) ∧ Open name ∧ Follows behind ∧ named name = .ok server ∧
      url = addressed secure server (behind ++ slashes) := by
  obtain ⟨lead, rest, rfl, hlead, hhead⟩ := exists_dropWhile isSlash front
  obtain ⟨name, behind, rfl, hname, hbehind⟩ :=
    exists_dropWhile (fun c => !endsAuthority true c) rest
  have hname : Open name := fun c hc => by simpa using hname c hc
  have hbehind : Follows behind := fun c hc => by simpa using hbehind c hc
  by_cases hnil : name ++ behind = []
  · -- Then all of it would be slashes.
    have hall : ∀ c ∈ lead ++ slashes, isSlash c = true := by
      intro c hc
      rcases List.mem_append.mp hc with hc | hc
      · exact hlead c hc
      · rw [hslashes c hc]
        rfl
    have hparse := @parseWeb_lead secure (lead ++ slashes) [] [] hall nofun nofun nofun
    rw [hnil, List.append_nil] at h
    rw [List.append_nil, List.append_nil, h] at hparse
    cases hparse
  · have hfollows : Follows (behind ++ slashes) := by
      intro c hc
      cases behind with
      | nil =>
        rw [hslashes c (List.mem_of_mem_head? hc)]
        rfl
      | cons b behind => exact hbehind c hc
    have hstart : ∀ c ∈ (name ++ (behind ++ slashes)).head?, isSlash c = false := by
      rwa [← List.append_assoc, List.head?_append_of_ne_nil _ hnil]
    rw [List.append_assoc, List.append_assoc, parseWeb_lead secure hlead hstart hname hfollows] at h
    obtain ⟨server, hserver, rfl⟩ := map_eq_ok.mp h
    exact ⟨lead, name, behind, server, rfl, hlead, hname, hbehind, hserver, rfl⟩

theorem open_low {low : List Char} (h : ∀ c ∈ low, isLow c = true) : Open low := by
  intro c hc
  have hlow := h c hc
  simp only [endsAuthority, Bool.true_and, Bool.or_eq_false_iff, decide_eq_false_iff_not]
  refine ⟨⟨⟨?_, ?_⟩, ?_⟩, ?_⟩ <;> · rintro rfl; exact absurd hlow (by decide)

theorem rest_of_slashes {front slashes scheme rest : List Char}
    (h : front ++ slashes = scheme ++ ':' :: rest) (hslashes : ∀ c ∈ slashes, c = '/') :
    ∃ r, front = scheme ++ ':' :: r ∧ rest = r ++ slashes := by
  rw [List.append_cons] at h
  obtain ⟨cs, hscheme, hcs⟩ | ⟨r, rfl, hr⟩ := List.append_eq_append_iff.mp h
  · cases hlast : cs.getLast? with
    | none =>
      rw [List.getLast?_eq_none_iff.mp hlast, List.append_nil] at hscheme
      rw [List.getLast?_eq_none_iff.mp hlast, List.nil_append] at hcs
      exact ⟨[], hscheme.symm, hcs.symm⟩
    | some c =>
      have hcolon := congrArg List.getLast? hscheme
      rw [List.getLast?_append, List.getLast?_append, hlast] at hcolon
      cases hcolon
      have hmem : ':' ∈ slashes := by
        rw [hcs]
        exact List.mem_append_left _ (List.mem_of_getLast? hlast)
      exact absurd (hslashes ':' hmem) (by decide)
  · exact ⟨r, by simp, hr⟩

/-- An address that has been read, with a path in the place of the slashes at its end. What stands
behind the server comes before the path; if there is nothing, blanks at the end of the address become
part of what names the server. -/
theorem parse_appended {base : String} {url : Url} (h : parse base = .ok (.web url)) :
    ∃ secure name behind slashes low server,
      named name = .ok server ∧ url = addressed secure server (behind ++ slashes) ∧
      (∀ c ∈ behind, c ∈ base.toList) ∧ (∀ c ∈ slashes, c = '/') ∧
      (∀ c ∈ low, isLow c = true) ∧
      (low = [] ∨ ∃ c ∈ base.toList.getLast?, isLow c = true) ∧
      ∀ path, (∀ c ∈ path, isLow c = false) →
        parse (Client.trimSlashes base ++ String.ofList ('/' :: path)) =
          if behind = [] then
            (named (name ++ low)).map fun server => .web (addressed secure server ('/' :: path))
          else
            .ok (.web (addressed secure server (behind ++ (low ++ '/' :: path)))) := by
  obtain ⟨secure, rest, hcut, hweb⟩ := scheme_of_parse h
  obtain ⟨scheme, hclean, hscheme, hmore⟩ := cutScheme_cases hcut
  obtain ⟨c, hc, hslash⟩ := hscheme
  have hkept : ∃ c ∈ clean base.toList, c ≠ '/' := by
    rw [hclean]
    exact ⟨c, List.mem_append_left _ hc, hslash⟩
  obtain ⟨front, slashes, low, hfront, hslashes, hlow, hvisible, happended⟩ := clean_appended hkept
  obtain ⟨r, rfl, rfl⟩ := rest_of_slashes (hfront.symm.trans hclean) hslashes
  obtain ⟨lead, name, behind, server, rfl, hlead, hname, hbehind, hserver, hurl⟩ :=
    server_of_parse hweb hslashes
  have hne := name_ne_nil hserver
  refine ⟨secure, name, behind, slashes, low, server, hserver, hurl, ?_, hslashes, hlow, hvisible, ?_⟩
  · intro c hc
    refine mem_of_clean ?_
    rw [hclean]
    simp [hc]
  · intro path hpath
    have htail : ∀ c ∈ '/' :: path, isLow c = false := by
      rw [List.forall_mem_cons]
      exact ⟨rfl, hpath⟩
    have htext : (Client.trimSlashes base ++ String.ofList ('/' :: path)).toList =
        base.toList.rdropWhile (· = '/') ++ '/' :: path := by
      simp [Client.trimSlashes, List.rdropWhile]
    have hcut : cutScheme? (clean (Client.trimSlashes base ++ String.ofList ('/' :: path)).toList) =
        some (schemeOf secure, lead ++ (name ++ behind) ++ (low ++ '/' :: path)) := by
      rw [htext, happended _ (List.cons_ne_nil _ _) htail, List.append_assoc, List.cons_append, hmore]
    have hfollows : Follows ('/' :: path) := by
      rintro c ⟨⟩
      rfl
    rw [parse_of_scheme hcut]
    by_cases hnil : behind = []
    · subst hnil
      have hhead : ∀ c ∈ (name ++ low ++ '/' :: path).head?, isSlash c = false := by
        rw [List.append_assoc, List.head?_append_of_ne_nil _ hne]
        exact isSlash_open hname
      have hopen : Open (name ++ low) := List.forall_mem_append.mpr ⟨hname, open_low hlow⟩
      rw [if_pos rfl, List.append_nil, List.append_assoc, ← List.append_assoc name,
        parseWeb_lead secure hlead hhead hopen hfollows]
      cases named (name ++ low) <;> rfl
    · have hhead : ∀ c ∈ (name ++ (behind ++ (low ++ '/' :: path))).head?, isSlash c = false := by
        rw [List.head?_append_of_ne_nil _ hne]
        exact isSlash_open hname
      have hfollows : Follows (behind ++ (low ++ '/' :: path)) := by
        intro c hc
        rw [List.head?_append_of_ne_nil _ hnil] at hc
        exact hbehind c hc
      rw [if_neg hnil, List.append_assoc, List.append_assoc,
        parseWeb_lead secure hlead hhead hname hfollows, hserver]
      rfl

end GraphBrowser.Url
