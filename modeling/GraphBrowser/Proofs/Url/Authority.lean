import GraphBrowser.Proofs.Text.Basic
import GraphBrowser.Url.Basic

namespace GraphBrowser.Url

open Text (takeWhile_rest dropWhile_rest)

theorem forall_mem_of_all {p : Char → Prop} [DecidablePred p] {cs : List Char}
    (h : cs.all (fun c => decide (p c)) = true) : ∀ c ∈ cs, p c :=
  fun c hc => of_decide_eq_true (List.all_eq_true.mp h c hc)

/-- What may follow the part of an address that names the server: nothing, or what ends that part. -/
def Follows (cs : List Char) : Prop := ∀ c ∈ cs.head?, endsAuthority true c = true

def Rooted (cs : List Char) : Prop := cs = [] ∨ ∃ t, cs = '/' :: t

theorem Rooted.follows {cs : List Char} (h : Rooted cs) : Follows cs := by
  rcases h with rfl | ⟨t, rfl⟩
  · exact nofun
  · rintro c ⟨⟩
    rfl

def Open (cs : List Char) : Prop := ∀ c ∈ cs, endsAuthority true c = false

theorem takeWhile_open {cs rest : List Char} (h : Open cs) (hr : Follows rest) :
    (cs ++ rest).takeWhile (fun c => !endsAuthority true c) = cs := by
  rw [takeWhile_rest fun c hc => by rw [hr c hc]; rfl]
  exact List.takeWhile_eq_self_iff.mpr fun c hc => by rw [h c hc]; rfl

theorem dropWhile_open {cs rest : List Char} (h : Open cs) (hr : Follows rest) :
    (cs ++ rest).dropWhile (fun c => !endsAuthority true c) = rest := by
  rw [dropWhile_rest fun c hc => by rw [hr c hc]; rfl]
  exact congrArg (· ++ rest) (List.dropWhile_eq_nil_iff.mpr fun c hc => by rw [h c hc]; rfl)

theorem cutUser_rest {cs rest : List Char} (h : Open cs) (hr : Follows rest) :
    ∃ user host, Open host ∧ cutUser true cs = .ok (user, host) ∧
      (cutUser true (cs ++ rest) = .ok (user, host ++ rest) ∨
        host = [] ∧ cutUser true (cs ++ rest) = .error .emptyHost) := by
  have hnil : Follows [] := nofun
  have hcs := takeWhile_open h hnil
  have hafter := dropWhile_open h hnil
  rw [List.append_nil] at hcs hafter
  unfold cutUser
  simp only [takeWhile_open h hr, dropWhile_open h hr, hcs, hafter]
  by_cases hat : cs.contains '@' = true
  · have hsub : Open (Text.afterLast '@' cs) := fun c hc => h c (Text.afterLast_subset '@' cs hc)
    simp only [hat, if_true, List.isEmpty_nil, Bool.not_true, Bool.and_false, List.append_nil]
    refine ⟨_, _, hsub, rfl, ?_⟩
    split
    · rename_i hempty
      simp only [Bool.and_eq_true, List.isEmpty_iff] at hempty
      exact .inr ⟨hempty.1.2, rfl⟩
    · exact .inl rfl
  · simp only [hat]
    exact ⟨.nobody, cs, h, rfl, .inl rfl⟩

theorem cutHost_rest {rest : List Char} (hr : Follows rest) (cs : List Char) (bracketed : Bool)
    (h : Open cs) :
    cutHost true bracketed (cs ++ rest) =
      ((cutHost true bracketed cs).1, (cutHost true bracketed cs).2 ++ rest) := by
  induction cs generalizing bracketed with
  | nil =>
    cases rest with
    | nil => rfl
    | cons c rest => simp [cutHost, hr c rfl]
  | cons c cs ih =>
    rw [Open, List.forall_mem_cons] at h
    rw [List.cons_append, cutHost, cutHost]
    dsimp only
    rw [ih _ h.2]
    split <;> rfl

theorem cutHost_behind (cs : List Char) (bracketed : Bool) (h : Open cs) :
    (cutHost true bracketed cs).2 = [] ∨
      ∃ t, (cutHost true bracketed cs).2 = ':' :: t ∧ Open t := by
  induction cs generalizing bracketed with
  | nil => exact .inl rfl
  | cons c cs ih =>
    rw [Open, List.forall_mem_cons] at h
    rw [cutHost]
    split
    · rename_i hc
      rw [h.1, Bool.or_false, Bool.and_eq_true, decide_eq_true_eq] at hc
      exact .inr ⟨cs, by rw [hc.1], h.2⟩
    · exact ih _ h.2

theorem isDigit_of_endsAuthority {c : Char} (h : endsAuthority true c = true) :
    c.isDigit = false := by
  simp only [endsAuthority, Bool.true_and, Bool.or_eq_true, decide_eq_true_eq] at h
  rcases h with ((rfl | rfl) | rfl) | rfl <;> rfl

theorem cutPort_rest {cs rest : List Char} (hr : Follows rest)
    (h : cs = [] ∨ ∃ t, cs = ':' :: t ∧ Open t) :
    cutPort (cs ++ rest) = (cutPort cs).map fun (port, _) => (port, rest) := by
  rcases h with rfl | ⟨t, rfl, ht⟩
  · cases rest with
    | nil => rfl
    | cons c rest =>
      have hc : c ≠ ':' := by
        rintro rfl
        exact absurd (hr ':' rfl) (by decide)
      simp [cutPort, hc, Except.map]
  · have hdigit : ∀ c ∈ rest.head?, c.isDigit = false := fun c hc =>
      isDigit_of_endsAuthority (hr c hc)
    have hmem : ∀ c ∈ t.dropWhile Char.isDigit, endsAuthority true c = false := fun c hc =>
      ht c ((List.dropWhile_sublist _).subset hc)
    simp only [cutPort, List.cons_append, takeWhile_rest hdigit, dropWhile_rest hdigit]
    cases hd : t.dropWhile Char.isDigit with
    | nil =>
      have hhead : rest.head?.any (fun c => !endsAuthority true c) = false := by
        cases rest with
        | nil => rfl
        | cons c rest => simp [hr c rfl]
      simp only [List.nil_append, hhead, List.head?_nil, Option.any_none]
      cases Text.ofDigits? 10 (t.takeWhile Char.isDigit) with
      | none => rfl
      | some n =>
        by_cases hn : 65535 < n <;> simp [hn, Except.map]
    | cons c after =>
      have hc : endsAuthority true c = false := hmem c (by simp [hd])
      simp only [List.cons_append, List.head?_cons, Option.any_some, hc, Bool.not_false,
        Bool.or_true, if_true]
      cases Text.ofDigits? 10 (t.takeWhile Char.isDigit) <;> rfl

def server (cs : List Char) : Except ParseError (Host × Option Nat) := do
  let (host, rest) := cutHost true false cs
  if host.isEmpty then
    .error .emptyHost
  else
    let host ← Host.parse host
    let (port, _) ← cutPort rest
    return (host, port)

def named (cs : List Char) : Except ParseError (User × Host × Option Nat) := do
  let (user, cs) ← cutUser true cs
  return (user, ← server cs)

def addressed (secure : Bool) (server : User × Host × Option Nat) (behind : List Char) : Url :=
  let path := behind.takeWhile fun c => c != '?' && c != '#'
  let rest := behind.dropWhile fun c => c != '?' && c != '#'
  { secure := secure
    user := server.1
    host := server.2.1
    port := server.2.2.filter (· ≠ if secure then 443 else 80)
    path := pathOf path
    query :=
      if (Text.cut '#' rest).1.isEmpty then none
      else some (encoded keepInQuery (Text.cut '#' rest).1.tail)
    fragment :=
      if rest.contains '#' then some (encoded keepInFragment (Text.cut '#' rest).2) else none }

/-- A web address is read in two parts: what names the server, and what stands behind it. -/
theorem parseWeb_named (secure : Bool) {cs name behind : List Char}
    (hcs : cs.dropWhile (fun c => c = '/' || c = '\\') = name ++ behind) (hname : Open name)
    (hbehind : Follows behind) :
    parseWeb secure cs = (named name).map fun server => addressed secure server behind := by
  obtain ⟨user, host, hopen, huser, hrest⟩ := cutUser_rest hname hbehind
  simp only [parseWeb, hcs, named, huser, bind, Except.bind]
  rcases hrest with hrest | ⟨rfl, hrest⟩
  · simp only [hrest, cutHost_rest hbehind host false hopen, server, bind, Except.bind]
    by_cases hempty : (cutHost true false host).1.isEmpty = true
    · simp only [hempty, if_true]
      rfl
    · simp only [hempty]
      cases Host.parse (cutHost true false host).1 with
      | error e => rfl
      | ok parsed =>
        simp only [cutPort_rest hbehind (cutHost_behind host false hopen)]
        cases cutPort (cutHost true false host).2 with
        | error e => rfl
        | ok p => rfl
  · rw [hrest]
    rfl

/-- The name of a server, as it stands: nothing in it ends the server's part of an address, and
nobody's name stands before it. -/
def NamesServer (cs : List Char) : Prop :=
  cs ≠ [] ∧ ∀ c ∈ cs, endsAuthority true c = false ∧ c ≠ '@'

def onServer (server : Host × Option Nat) (path : List String) : Url where
  secure := false
  user := .nobody
  host := server.1
  port := server.2.filter (· ≠ 80)
  path := path
  query := none
  fragment := none

theorem addressed_path (secure : Bool) (server : User × Host × Option Nat) {path : List Char}
    (h : ∀ c ∈ path, c ≠ '?' ∧ c ≠ '#') :
    addressed secure server path =
      { secure := secure
        user := server.1
        host := server.2.1
        port := server.2.2.filter (· ≠ if secure then 443 else 80)
        path := pathOf path
        query := none
        fragment := none } := by
  have hpath : ∀ c ∈ path, (c != '?' && c != '#') = true := by
    intro c hc
    simpa using h c hc
  have htake : path.takeWhile (fun c => c != '?' && c != '#') = path :=
    List.takeWhile_eq_self_iff.mpr hpath
  have hdrop : path.dropWhile (fun c => c != '?' && c != '#') = [] :=
    List.dropWhile_eq_nil_iff.mpr hpath
  simp only [addressed, htake, hdrop]
  rfl

theorem named_server {name : List Char} (h : NamesServer name) :
    named name = (server name).map fun s => (User.nobody, s) := by
  have hauthority : name.takeWhile (fun c => !endsAuthority true c) = name :=
    List.takeWhile_eq_self_iff.mpr fun c hc => by rw [(h.2 c hc).1]; rfl
  have huser : name.contains '@' = false := by
    rw [List.contains_eq_mem, decide_eq_false_iff_not]
    exact fun hm => (h.2 '@' hm).2 rfl
  simp only [named, cutUser, hauthority, huser]
  rfl

theorem parseWeb_server {name rest : List Char} (h : NamesServer name) (hr : Rooted rest)
    (hrest : ∀ c ∈ rest, c ≠ '?' ∧ c ≠ '#') :
    parseWeb false ('/' :: '/' :: (name ++ rest)) =
      (server name).map fun s => onServer s (pathOf rest) := by
  have hslashes : ('/' :: '/' :: (name ++ rest)).dropWhile (fun c => c = '/' || c = '\\') =
      name ++ rest := by
    obtain ⟨hne, hname⟩ := h
    cases name with
    | nil => exact absurd rfl hne
    | cons c name =>
      have hc := (hname c (by simp)).1
      have hslash : (decide (c = '/') || decide (c = '\\')) = false := by
        simp only [endsAuthority, Bool.true_and, Bool.or_eq_false_iff] at hc
        rw [hc.1.1.1, hc.2, Bool.or_false]
      simp [hslash]
  rw [parseWeb_named false hslashes (fun c hc => (h.2 c hc).1) hr.follows, named_server h]
  cases server name with
  | error e => rfl
  | ok s => exact congrArg Except.ok (addressed_path false (.nobody, s) hrest)

theorem dropWhile_visible {cs : List Char} (h : ∀ c ∈ cs, 0x20 < c.toNat) :
    cs.dropWhile (fun c => c.toNat ≤ 0x20) = cs := by
  cases cs with
  | nil => rfl
  | cons c cs =>
    have hc : ¬ c.toNat ≤ 0x20 := Nat.not_le.mpr (h c (by simp))
    rw [List.dropWhile_cons, if_neg (by simpa using hc)]

theorem clean_visible {cs : List Char} (h : ∀ c ∈ cs, 0x20 < c.toNat) : clean cs = cs := by
  have hreverse : ∀ c ∈ cs.reverse, 0x20 < c.toNat := fun c hc => h c (List.mem_reverse.mp hc)
  have hkept : ∀ c ∈ cs, (c != '\t' && c != '\n' && c != '\r') = true := by
    intro c hc
    have hlt := h c hc
    simp only [Bool.and_eq_true, bne_iff_ne, ne_eq]
    refine ⟨⟨?_, ?_⟩, ?_⟩ <;> · rintro rfl; revert hlt; decide
  unfold clean
  dsimp only
  rw [dropWhile_visible h, dropWhile_visible hreverse, List.reverse_reverse,
    List.filter_eq_self.mpr hkept]

theorem parse_http {cs : List Char} (h : ∀ c ∈ cs, 0x20 < c.toNat) :
    parse ("http:" ++ String.ofList cs) = (parseWeb false cs).map .web := by
  have hvisible : ∀ c ∈ "http:".toList ++ cs, 0x20 < c.toNat := by
    intro c hc
    have hhttp : ∀ c ∈ "http:".toList, 0x20 < c.toNat := forall_mem_of_all (by decide)
    exact (List.mem_append.mp hc).elim (hhttp c) (h c)
  have htext : ("http:" ++ String.ofList cs).toList = "http:".toList ++ cs := by simp
  have hscheme : cutScheme? ("http:".toList ++ cs) = some ("http", cs) := rfl
  unfold parse
  rw [htext, clean_visible hvisible, hscheme]
  rfl

end GraphBrowser.Url
