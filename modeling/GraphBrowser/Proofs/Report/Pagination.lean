import GraphBrowser.Proofs.Page.Window
import GraphBrowser.Proofs.Text.Basic
import GraphBrowser.Report
import Mathlib.Data.List.Nodup

namespace GraphBrowser

theorem Window.nodup_pages (total current width : UInt32) : (pages total current width).Nodup := by
  apply List.Nodup.of_map UInt32.toNat
  rw [toNat_pages]
  exact List.nodup_range'

namespace ResultPage

variable {p : ResultPage α}

theorem filter_window (h : p.number < p.totalPages) : p.window.filter p.isActive = [p.number + 1] := by
  have hmem : p.number + 1 ∈ p.window := Window.current_mem_pages h (by decide)
  have hcount : p.window.count (p.number + 1) = 1 :=
    List.count_eq_one_of_mem (Window.nodup_pages _ _ _) hmem
  have hactive : p.isActive = fun n => n == p.number + 1 := by
    funext n
    rw [Bool.eq_iff_iff, isActive, decide_eq_true_eq, beq_iff_eq]
  rw [hactive, List.filter_beq, hcount]
  rfl

/-- No link leads to a page behind the last one, also where the number after the largest one is zero. -/
theorem filter_window_past (h : p.totalPages ≤ p.number) : p.window.filter p.isActive = [] := by
  rw [List.filter_eq_nil_iff]
  intro n hn
  have hrange := Window.pages_range hn
  have hlt := p.number.toNat_lt
  rw [isActive, decide_eq_true_eq]
  rintro rfl
  rw [UInt32.le_iff_toNat_le] at h
  rw [UInt32.toNat_add, UInt32.toNat_one] at hrange
  omega

/-- There is a link, but no word for the number of the page after this one to compare it with. -/
def Overflows (b : Build) (p : ResultPage α) : Prop :=
  b = .checked ∧ p.number.toNat = maxWord32 ∧ 0 < p.totalPages

theorem window_eq_nil_iff : p.window = [] ↔ ¬ 0 < p.totalPages := by
  have hlt := p.number.toNat_lt
  have hwidth : maxVisiblePages.toNat = 10 := rfl
  have hmax : maxWord32 = 4294967295 := rfl
  rw [← List.length_eq_zero_iff, window, Window.length_pages, UInt32.lt_iff_toNat_lt, UInt32.toNat_zero,
    hwidth, hmax]
  split <;> omega

theorem isActive?_of_fits {b : Build} (h : ¬ (b = .checked ∧ p.number.toNat = maxWord32)) (n : UInt32) :
    p.isActive? b n = some (p.isActive n) := by
  cases b with
  | wrapping => rfl
  | checked =>
    have hle : p.number.toNat ≤ maxWord32 := Nat.le_of_lt_succ p.number.toNat_lt
    have hne : p.number.toNat ≠ maxWord32 := fun hmax => h ⟨rfl, hmax⟩
    have hfits : p.number.toNat + (1 : UInt32).toNat < UInt32.size :=
      Nat.succ_lt_succ (Nat.lt_of_le_of_ne hle hne)
    rw [isActive?, Build.add?, if_pos hfits]
    rfl

theorem isActive?_checked (h : p.number.toNat = maxWord32) (n : UInt32) :
    p.isActive? .checked n = none := by
  rw [isActive?, Build.add?, h]
  rfl

end ResultPage

namespace Report

theorem pagination?_eq_some {b : Build} {p : ResultPage α} (h : ¬ p.Overflows b) :
    pagination? b p = some (pagination p) := by
  by_cases hsum : b = .checked ∧ p.number.toNat = maxWord32
  · have hnil : p.window = [] :=
      ResultPage.window_eq_nil_iff.mpr fun hpos => h ⟨hsum.1, hsum.2, hpos⟩
    rw [pagination?, pagination, hnil]
    rfl
  · have hlinks : (fun n => (p.isActive? b n).map (linkText n)) = fun n => some (pageLink p n) := by
      funext n
      rw [ResultPage.isActive?_of_fits hsum]
      rfl
    have hall : p.window.mapM (fun n => some (pageLink p n)) = some (p.window.map (pageLink p)) :=
      List.mapM_pure
    rw [pagination?, hlinks, hall]
    rfl

theorem pagination?_eq_none {b : Build} {p : ResultPage α} (h : p.Overflows b) :
    pagination? b p = none := by
  obtain ⟨rfl, hmax, hpos⟩ := h
  have hlinks : p.window ≠ [] := fun hnil => ResultPage.window_eq_nil_iff.mp hnil hpos
  obtain ⟨n, ns, hwindow⟩ := List.exists_cons_of_ne_nil hlinks
  rw [pagination?, hwindow, List.mapM_cons, ResultPage.isActive?_checked hmax]
  rfl

theorem listing?_eq_some {b : Build} {p : ResultPage Node} (h : ¬ p.Overflows b) :
    listing? b p = some (listing p) := by
  rw [listing?, pagination?_eq_some h]
  rfl

theorem listing?_eq_none {b : Build} {p : ResultPage Node} (h : p.Overflows b) :
    listing? b p = none := by
  rw [listing?, pagination?_eq_none h]
  rfl

structure Link where
  page : UInt32
  marked : Bool

def Link.text (l : Link) : String :=
  if l.marked then "[" ++ toString l.page.toNat ++ "]" else toString l.page.toNat

namespace Link

theorem text_marked (n : UInt32) : (mk n true).text = "[" ++ toString n.toNat ++ "]" := rfl

theorem text_plain (n : UInt32) : (mk n false).text = toString n.toNat := rfl

theorem not_mem_text {c : Char} (hdigit : c.isDigit = false) (hopen : c ≠ '[') (hclose : c ≠ ']')
    (l : Link) : c ∉ l.text.toList := by
  obtain ⟨n, marked⟩ := l
  have hdigits := Text.not_mem_toString hdigit n.toNat
  cases marked with
  | false => exact hdigits
  | true =>
    rw [text_marked, String.toList_append, String.toList_append, List.mem_append, List.mem_append,
      not_or, not_or]
    exact ⟨⟨by simpa using hopen, hdigits⟩, by simpa using hclose⟩

theorem text_ne_nil (l : Link) : l.text.toList ≠ [] := by
  obtain ⟨n, marked⟩ := l
  cases marked with
  | false =>
    rw [text_plain, Nat.toString_eq_repr, Nat.toList_repr]
    exact Nat.toDigits_ne_nil
  | true =>
    rw [text_marked, String.append_assoc, String.toList_append]
    exact List.append_ne_nil_of_left_ne_nil (by decide) _

theorem plain_ne_marked (m n : UInt32) : (mk m false).text ≠ (mk n true).text := by
  intro h
  have hopen : '[' ∉ (mk m false).text.toList := Text.not_mem_toString (by decide) m.toNat
  rw [h, text_marked] at hopen
  exact hopen (by simp)

theorem eq_of_number {m n : UInt32} (h : toString m.toNat = toString n.toNat) : m = n :=
  UInt32.toNat_inj.mp (Text.eq_of_toString h)

theorem text_inj {l l' : Link} (h : l.text = l'.text) : l = l' := by
  obtain ⟨n, marked⟩ := l
  obtain ⟨n', marked'⟩ := l'
  cases marked with
  | false =>
    cases marked' with
    | false =>
      obtain rfl := eq_of_number h
      rfl
    | true => exact absurd h (plain_ne_marked n n')
  | true =>
    cases marked' with
    | false => exact absurd h.symm (plain_ne_marked n' n)
    | true =>
      rw [text_marked, text_marked, String.append_left_inj, String.append_right_inj] at h
      obtain rfl := eq_of_number h
      rfl

end Link

def bar (links : List Link) (total : UInt32) : String :=
  "First  «  " ++ " ".intercalate (links.map Link.text) ++ "  »  Last (" ++ toString total.toNat ++ ")"

variable {links links' : List Link} {total total' : UInt32}

theorem entries_inj (h : " ".intercalate (links.map Link.text) = " ".intercalate (links'.map Link.text)) :
    links = links' := by
  have hparts (ls : List Link) : ∀ q ∈ (ls.map Link.text).map String.toList, q ≠ [] ∧ ' ' ∉ q := by
    rw [List.forall_mem_map, List.forall_mem_map]
    exact fun l _ => ⟨l.text_ne_nil, l.not_mem_text (by decide) (by decide) (by decide)⟩
  have hchars := congrArg String.toList h
  rw [String.toList_intercalate, String.toList_intercalate] at hchars
  have htexts := Text.intercalate_inj (hparts links) (hparts links') hchars
  rw [List.map_map, List.map_map] at htexts
  apply List.map_injective_iff.mpr _ htexts
  intro l l' hl
  exact Link.text_inj (String.toList_inj.mp hl)

theorem not_mem_entries (links : List Link) : '»' ∉ (" ".intercalate (links.map Link.text)).toList := by
  rw [String.toList_intercalate]
  apply Text.not_mem_intercalate (by decide)
  rw [List.forall_mem_map, List.forall_mem_map]
  exact fun l _ => l.not_mem_text (by decide) (by decide) (by decide)

/-- The entries end at the only mark of its kind. -/
theorem cut_bar (links : List Link) (total : UInt32) :
    Text.cut '»' (bar links total).toList =
      (("First  «  " ++ " ".intercalate (links.map Link.text) ++ "  ").toList,
        ("  Last (" ++ toString total.toNat ++ ")").toList) := by
  have hsplit : (bar links total).toList =
      ("First  «  " ++ " ".intercalate (links.map Link.text) ++ "  ").toList ++
        '»' :: ("  Last (" ++ toString total.toNat ++ ")").toList := by
    simp [bar]
  rw [hsplit, Text.cut_append]
  rw [String.toList_append, String.toList_append, List.mem_append, List.mem_append, not_or, not_or]
  exact ⟨⟨by decide, not_mem_entries links⟩, by decide⟩

theorem bar_inj (h : bar links total = bar links' total') : links = links' ∧ total = total' := by
  have hcut := congrArg (fun s : String => Text.cut '»' s.toList) h
  rw [cut_bar, cut_bar, Prod.mk.injEq, String.toList_inj, String.toList_inj] at hcut
  obtain ⟨hentries, htotal⟩ := hcut
  rw [String.append_left_inj, String.append_right_inj] at hentries htotal
  exact ⟨entries_inj hentries, Link.eq_of_number htotal⟩

def linksOf (p : ResultPage α) : List Link := p.window.map fun n => ⟨n, p.isActive n⟩

theorem pagination_eq (p : ResultPage α) : pagination p = bar (linksOf p) p.totalPages := by
  rw [pagination, barText, bar, linksOf, List.map_map]
  rfl

theorem page_linksOf (p : ResultPage α) : (linksOf p).map Link.page = p.window := by
  rw [linksOf, List.map_map]
  exact List.map_id _

theorem marked_linksOf (p : ResultPage α) :
    ((linksOf p).filter Link.marked).map Link.page = p.window.filter p.isActive := by
  rw [linksOf, List.filter_map, List.map_map]
  exact List.map_id _

/-- A bar with the same entries marks the same page, or none as well. -/
theorem shown_of_links {p : ResultPage α} {q : ResultPage β} (h : linksOf p = linksOf q)
    (hp : p.number < p.totalPages) : q.number < q.totalPages ∧ p.number = q.number := by
  have hmarked : p.window.filter p.isActive = q.window.filter q.isActive := by
    rw [← marked_linksOf, ← marked_linksOf, h]
  rw [ResultPage.filter_window hp] at hmarked
  by_cases hq : q.number < q.totalPages
  · rw [ResultPage.filter_window hq, List.cons.injEq] at hmarked
    exact ⟨hq, (UInt32.add_left_inj 1).mp hmarked.1⟩
  · rw [ResultPage.filter_window_past (UInt32.not_lt.mp hq)] at hmarked
    exact absurd hmarked (List.cons_ne_nil _ _)

/-- The entries of the bar are the page links in their order, and its text can be read in one way only.
A page of the listing has exactly one entry in brackets, which is its own number; a page behind the last
one has none. So the bar tells the links, the shown page and the number of pages. -/
theorem bar_marks_shown_page (p : ResultPage α) :
    ∃ links : List Link,
      pagination p = bar links p.totalPages ∧
      (∀ links' total, pagination p = bar links' total → links' = links ∧ total = p.totalPages) ∧
      links.map (·.page) = p.window ∧
      (p.number < p.totalPages → (links.filter (·.marked)).map (·.page) = [p.number + 1]) ∧
      (p.totalPages ≤ p.number → links.filter (·.marked) = []) ∧
      ∀ {β : Type} (q : ResultPage β), pagination p = pagination q →
        p.window = q.window ∧ p.totalPages = q.totalPages ∧
        (p.number < p.totalPages ↔ q.number < q.totalPages) ∧
        (p.number < p.totalPages → p.number = q.number) := by
  refine ⟨linksOf p, pagination_eq p, ?_, page_linksOf p, fun hp => ?_, fun hp => ?_, ?_⟩
  · intro links' total h
    rw [pagination_eq] at h
    obtain ⟨hlinks, htotal⟩ := bar_inj h
    exact ⟨hlinks.symm, htotal.symm⟩
  · exact (marked_linksOf p).trans (ResultPage.filter_window hp)
  · exact List.map_eq_nil_iff.mp ((marked_linksOf p).trans (ResultPage.filter_window_past hp))
  · intro β q h
    rw [pagination_eq, pagination_eq] at h
    obtain ⟨hlinks, htotal⟩ := bar_inj h
    refine ⟨?_, htotal, ⟨fun hp => (shown_of_links hlinks hp).1, fun hq => (shown_of_links hlinks.symm hq).1⟩,
      fun hp => (shown_of_links hlinks hp).2⟩
    rw [← page_linksOf, ← page_linksOf, hlinks]

def sixteenth : ResultPage Node := ⟨[], 15, 10, 230, 23, 10, false, false⟩

theorem bar_marks_shown_page_sixteenth :
    pagination sixteenth = "First  «  11 12 13 14 15 [16] 17 18 19 20  »  Last (23)" ∧
      ∃ links : List Link, pagination sixteenth = bar links 23 ∧
        links.map (·.page) = [11, 12, 13, 14, 15, 16, 17, 18, 19, 20] ∧
        (links.filter (·.marked)).map (·.page) = [16] := by
  obtain ⟨links, htext, -, hpages, hmarked, -⟩ := bar_marks_shown_page sixteenth
  exact ⟨by decide +kernel, links, htext, hpages, hmarked (by decide)⟩

end Report

end GraphBrowser
