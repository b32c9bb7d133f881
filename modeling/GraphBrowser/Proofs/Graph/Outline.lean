import GraphBrowser.Proofs.Text.Basic
import GraphBrowser.Report

namespace GraphBrowser

/-- The names of a dependency, and the outlines of those that it sums up. -/
inductive Outline where
  | node (source target type : String) (below : List Outline)

namespace Outline

abbrev Row := Nat × String × String × String

mutual

def row : Outline → Nat → List Row
  | .node source target type below, level => (level, source, target, type) :: rows below (level + 1)

/-- The rows of outlines that stand beside each other at a level. -/
def rows : List Outline → Nat → List Row
  | [], _ => []
  | o :: os, level => o.row level ++ rows os level

end

/-- Rows that do not go on at a level or below it. -/
def Above (level : Nat) (rs : List Row) : Prop := ∀ r ∈ rs.head?, r.1 < level

theorem above_nil (level : Nat) : Above level [] := by
  intro r hr
  cases hr

theorem above_rows (os : List Outline) {level : Nat} {rs : List Row} (h : Above level rs) :
    Above (level + 1) (rows os level ++ rs) := by
  cases os with
  | nil => exact fun r hr => Nat.lt_succ_of_lt (h r hr)
  | cons o os =>
    obtain ⟨source, target, type, below⟩ := o
    rintro r ⟨⟩
    exact Nat.lt_succ_self level

theorem rows_ne {o : Outline} {os : List Outline} {level : Nat} {rs ss : List Row}
    (h : Above level ss) : rows (o :: os) level ++ rs ≠ ss := by
  obtain ⟨source, target, type, below⟩ := o
  rintro rfl
  exact Nat.lt_irrefl level (h _ rfl)

/-- Where the outlines at a level end can be seen from the rows behind them. -/
theorem rows_append_inj (os os' : List Outline) {level : Nat} {rs rs' : List Row}
    (hrs : Above level rs) (hrs' : Above level rs')
    (h : rows os level ++ rs = rows os' level ++ rs') : os = os' ∧ rs = rs' := by
  match os, os' with
  | [], [] => exact ⟨rfl, h⟩
  | [], o :: os' => exact absurd h.symm (rows_ne hrs)
  | o :: os, [] => exact absurd h (rows_ne hrs')
  | .node source target type below :: os, .node source' target' type' below' :: os' =>
    simp only [rows, row, List.cons_append, List.append_assoc, List.cons.injEq, Prod.mk.injEq,
      true_and] at h
    obtain ⟨⟨rfl, rfl, rfl⟩, htail⟩ := h
    -- What is below the first outline ends where a row is at its level again, or above it.
    obtain ⟨rfl, hbeside⟩ :=
      rows_append_inj below below' (above_rows os hrs) (above_rows os' hrs') htail
    obtain ⟨rfl, hrest⟩ := rows_append_inj os os' hrs hrs' hbeside
    exact ⟨rfl, hrest⟩

theorem rows_inj {os os' : List Outline} {level : Nat} (h : rows os level = rows os' level) :
    os = os' := by
  have happend : rows os level ++ [] = rows os' level ++ [] := congrArg (· ++ []) h
  exact (rows_append_inj os os' (above_nil level) (above_nil level) happend).1

end Outline

namespace Dependency

def outline (d : Dependency) : (levels : Nat) → List Outline
  | 0 => []
  | levels + 1 => d.bases.map fun b => .node b.source b.target b.type (b.outline levels)

def named (e : Nat × Dependency) : Outline.Row := (e.1, e.2.source, e.2.target, e.2.type)

theorem named_basesWithin (d : Dependency) (level levels : Nat) :
    (d.basesWithin level levels).map named = Outline.rows (d.outline levels) level := by
  induction levels generalizing d level with
  | zero => rfl
  | succ levels ih =>
    rw [basesWithin, outline]
    induction d.bases with
    | nil => rfl
    | cons b bs ihbs =>
      simp only [List.flatMap_cons, List.map_append, List.map_cons, Outline.rows, Outline.row, ihbs,
        ih b (level + 1)]
      rfl

theorem named_flatten (d : Dependency) (depth : Nat) :
    (d.flatten depth).map named = Outline.rows (d.outline (min depth 8)) 1 :=
  d.named_basesWithin 1 (min depth 8)

theorem length_outline (d : Dependency) (levels : Nat) :
    (d.outline (levels + 1)).length = d.bases.length := by
  rw [outline, List.length_map]

end Dependency

namespace Report

def rowLine (r : Outline.Row) : String :=
  String.ofList (List.replicate (2 * r.1) ' ') ++ r.2.1 ++ " -> " ++ r.2.2.1 ++ "  " ++ r.2.2.2

def Solid (r : Outline.Row) : Prop :=
  ' ' ∉ r.2.1.toList ∧ ' ' ∉ r.2.2.1.toList ∧ ' ' ∉ r.2.2.2.toList

theorem pieces_indented (n : Nat) (cs : List Char) :
    Text.pieces ' ' (List.replicate n ' ' ++ cs) = List.replicate n [] ++ Text.pieces ' ' cs := by
  induction n with
  | zero => rfl
  | succ n ih =>
    rw [List.replicate_succ, List.cons_append, Text.pieces, if_pos rfl, ih]
    rfl

theorem pieces_rowLine {r : Outline.Row} (h : Solid r) :
    Text.pieces ' ' (rowLine r).toList =
      List.replicate (2 * r.1) [] ++ [r.2.1.toList, ['-', '>'], r.2.2.1.toList, [], r.2.2.2.toList] := by
  obtain ⟨hsource, htarget, htype⟩ := h
  have htext : (rowLine r).toList = List.replicate (2 * r.1) ' ' ++
      (r.2.1.toList ++ ' ' :: (['-', '>'] ++ ' ' :: (r.2.2.1.toList ++ ' ' :: ([] ++ ' ' ::
        r.2.2.2.toList)))) := by
    simp [rowLine]
  rw [htext, pieces_indented, Text.pieces_append hsource, Text.pieces_append (by decide),
    Text.pieces_append htarget, Text.pieces_append List.not_mem_nil, Text.pieces_plain htype]

theorem rowLine_inj {r r' : Outline.Row} (h : Solid r) (h' : Solid r') (hline : rowLine r = rowLine r') :
    r = r' := by
  have hpieces := congrArg (fun line => Text.pieces ' ' line.toList) hline
  simp only [pieces_rowLine h, pieces_rowLine h'] at hpieces
  obtain ⟨level, source, target, type⟩ := r
  obtain ⟨level', source', target', type'⟩ := r'
  obtain ⟨hindent, hnames⟩ := List.append_inj' hpieces rfl
  have hlevel := congrArg List.length hindent
  simp only [List.length_replicate] at hlevel
  simp only [List.cons.injEq, String.toList_inj] at hnames
  obtain ⟨rfl, -, rfl, -, rfl, -⟩ := hnames
  obtain rfl : level = level' := by omega
  rfl

def outlineLines (os : List Outline) : List String :=
  if os.isEmpty then
    []
  else
    "" :: ("Base Dependencies (" ++ toString os.length ++ ")") :: (Outline.rows os 1).map rowLine

theorem map_baseLine (bases : List (Nat × Dependency)) :
    (bases.map fun (level, base) => baseLine level base) =
      (bases.map Dependency.named).map rowLine := by
  rw [List.map_map]
  rfl

/-- The report shows the outline and nothing else. -/
theorem baseLines_eq (d : Dependency) (depth : Nat) :
    baseLines d depth = outlineLines (d.outline (min depth 8)) := by
  have hrows := d.named_flatten depth
  unfold baseLines outlineLines
  rw [← hrows, ← map_baseLine]
  cases hlevels : min depth 8 with
  | zero =>
    have hflatten : d.flatten depth = [] := by
      rw [Dependency.flatten, maxBaseDepth, hlevels]
      rfl
    rw [hflatten]
    rfl
  | succ levels =>
    have hflatten : d.flatten depth = d.bases.flatMap fun b => (1, b) :: b.basesWithin 2 levels := by
      rw [Dependency.flatten, maxBaseDepth, hlevels]
      rfl
    rw [d.length_outline, hflatten, Dependency.outline]
    cases d.bases with
    | nil => rfl
    | cons b bs => rfl

theorem rows_of_lines {rs rs' : List Outline.Row} (h : ∀ r ∈ rs, Solid r) (h' : ∀ r ∈ rs', Solid r)
    (hlines : rs.map rowLine = rs'.map rowLine) : rs = rs' := by
  induction rs generalizing rs' with
  | nil => exact (List.map_eq_nil_iff.mp hlines.symm).symm
  | cons r rs ih =>
    obtain ⟨r', rs', rfl, hr, hrs⟩ := List.map_eq_cons_iff.mp hlines.symm
    rw [List.forall_mem_cons] at h h'
    rw [rowLine_inj h.1 h'.1 hr.symm, ih h.2 h'.2 hrs.symm]

theorem outlineLines_inj {os os' : List Outline} (h : ∀ r ∈ Outline.rows os 1, Solid r)
    (h' : ∀ r ∈ Outline.rows os' 1, Solid r) (hlines : outlineLines os = outlineLines os') :
    os = os' := by
  cases os with
  | nil =>
    cases os' with
    | nil => rfl
    | cons o os' => cases hlines
  | cons o os =>
    cases os' with
    | nil => cases hlines
    | cons o' os' =>
      have hrows := (List.cons.inj (List.cons.inj hlines).2).2
      exact Outline.rows_inj (rows_of_lines h h' hrows)

/-- Names without blanks, as names of packages and classes are. -/
def Plain (d : Dependency) : Prop :=
  ' ' ∉ d.source.toList ∧ ' ' ∉ d.target.toList ∧ ' ' ∉ d.type.toList

instance (d : Dependency) : Decidable (Plain d) := inferInstanceAs (Decidable (_ ∧ _ ∧ _))

theorem solid_rows {d : Dependency} {depth : Nat} (h : ∀ e ∈ d.flatten depth, Plain e.2) :
    ∀ r ∈ Outline.rows (d.outline (min depth 8)) 1, Solid r := by
  rw [← d.named_flatten, List.forall_mem_map]
  exact h

end Report

namespace Dependency

def printed (e : Nat × Dependency) : String × String × String × String :=
  (Report.baseLine e.1 e.2, e.2.source, e.2.target, e.2.type)

/-- A line is longer than its names by two blanks for each level, and by six characters. -/
def unprinted (p : String × String × String × String) : Outline.Row :=
  ((p.1.length - (p.2.1.length + p.2.2.1.length + p.2.2.2.length + 6)) / 2, p.2)

theorem unprinted_printed (e : Nat × Dependency) : unprinted (printed e) = named e := by
  have hlevel : ((Report.baseLine e.1 e.2).length -
      (e.2.source.length + e.2.target.length + e.2.type.length + 6)) / 2 = e.1 := by
    simp only [Report.baseLine, String.length_append, String.length_ofList, List.length_replicate,
      show " -> ".length = 4 from rfl, show "  ".length = 2 from rfl]
    omega
  exact Prod.ext hlevel rfl

theorem map_named (es : List (Nat × Dependency)) : es.map named = (es.map printed).map unprinted := by
  rw [List.map_map]
  exact List.map_congr_left fun e _ => (unprinted_printed e).symm

/-- The flat list shows the outline down to the depth of the list, and so do its lines in the report,
together with their names. The section of the report depends on the outline only, and without blanks in
the names it can be read back. -/
theorem flat_list_shows_outline (d₁ d₂ : Dependency) (depth : Nat) :
    let alike := d₁.outline (min depth 8) = d₂.outline (min depth 8)
    ((d₁.flatten depth).map named = (d₂.flatten depth).map named ↔ alike) ∧
    ((d₁.flatten depth).map printed = (d₂.flatten depth).map printed → alike) ∧
    (alike → Report.baseLines d₁ depth = Report.baseLines d₂ depth) ∧
    ((∀ e ∈ d₁.flatten depth, Report.Plain e.2) → (∀ e ∈ d₂.flatten depth, Report.Plain e.2) →
      Report.baseLines d₁ depth = Report.baseLines d₂ depth → alike) := by
  intro alike
  have hnamed : (d₁.flatten depth).map named = (d₂.flatten depth).map named ↔ alike := by
    rw [named_flatten, named_flatten]
    exact ⟨Outline.rows_inj, congrArg (Outline.rows · 1)⟩
  refine ⟨hnamed, fun hprinted => hnamed.mp ?_, fun halike => ?_, fun hplain₁ hplain₂ hlines => ?_⟩
  · rw [map_named, map_named, hprinted]
  · rw [Report.baseLines_eq, Report.baseLines_eq, halike]
  · rw [Report.baseLines_eq, Report.baseLines_eq] at hlines
    exact Report.outlineLines_inj (Report.solid_rows hplain₁) (Report.solid_rows hplain₂) hlines

def calls (source target : String) (bases : List Dependency) : Dependency :=
  ⟨source, target, "CALLS", .empty, bases⟩

def twoLevels : Dependency := calls "a" "b" [calls "a.c" "b" [calls "a.c.e" "b.f" []]]

def threeLevels : Dependency :=
  calls "a" "b" [calls "a.c" "b" [calls "a.c.e" "b.f" [calls "a.c.e.g" "b.f.h" []]]]

theorem flat_list_shows_outline_twoLevels :
    (threeLevels.flatten 2).map named = (twoLevels.flatten 2).map named ∧
    (∀ e ∈ threeLevels.flatten 2, Report.Plain e.2) ∧ (∀ e ∈ twoLevels.flatten 2, Report.Plain e.2) ∧
    Report.baseLines threeLevels 2 = Report.baseLines twoLevels 2 ∧
    threeLevels.outline 2 = twoLevels.outline 2 := by
  have hplain₁ : ∀ e ∈ threeLevels.flatten 2, Report.Plain e.2 := by decide
  have hplain₂ : ∀ e ∈ twoLevels.flatten 2, Report.Plain e.2 := by decide
  have hlines : Report.baseLines threeLevels 2 = Report.baseLines twoLevels 2 := by rfl
  exact ⟨rfl, hplain₁, hplain₂, hlines,
    (flat_list_shows_outline threeLevels twoLevels 2).2.2.2 hplain₁ hplain₂ hlines⟩

end Dependency

end GraphBrowser
