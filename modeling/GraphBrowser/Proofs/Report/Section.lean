import GraphBrowser.Proofs.Graph.Properties
import GraphBrowser.Proofs.Json.Printable
import GraphBrowser.Proofs.Report.Lines

namespace GraphBrowser

open Json

open Report (IsLine)

namespace Report

/-- No lines for no entries, else a blank line, the heading and one line for each entry in its turn. -/
inductive Section (heading : String) (Shows : α → String → Prop) : List α → List String → Prop
  | empty : Section heading Shows [] []
  | entries {entries : List α} {body : List String} : entries ≠ [] →
    List.Forall₂ Shows entries body → Section heading Shows entries ("" :: heading :: body)

theorem Section.length_eq {heading : String} {Shows : α → String → Prop} {entries : List α}
    {ls : List String} (h : Section heading Shows entries ls) :
    ls.length = if entries.isEmpty then 0 else entries.length + 2 := by
  cases h with
  | empty => rfl
  | entries hne hbody =>
    rw [if_neg (by simpa using hne), hbody.length_eq]
    rfl

theorem propertyLines_eq (p : Properties) : propertyLines p =
    if p.keys.isEmpty then [] else "" :: "Properties" :: p.keys.map fun key =>
      propertyLine (keyWidth p.keys) key ((p.get? key).getD .null) := by
  have hempty : p.isEmpty = p.keys.isEmpty := by
    rw [Properties.isEmpty, Properties.keys, List.isEmpty_map]
  rw [propertyLines, hempty]
  conv_lhs => rw [p.entries_eq, List.map_map]
  rfl

end Report

end GraphBrowser
