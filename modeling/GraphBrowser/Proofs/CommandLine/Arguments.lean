import GraphBrowser.CommandLine
import GraphBrowser.Proofs.Client.Service
import GraphBrowser.Proofs.Text.Basic

namespace GraphBrowser.CommandLine

theorem word_attached {front name : String}
    (hfront : front.toList = '-' :: '-' :: (name.toList ++ ['='])) (hname : '=' ∉ name.toList)
    (value : String) : Word.of (front ++ value) = .long name (some value) := by
  have htext : (front ++ value).toList = '-' :: '-' :: (name.toList ++ '=' :: value.toList) := by
    simp [hfront]
  obtain ⟨c, cs, hcs⟩ := List.exists_cons_of_ne_nil
    (List.append_ne_nil_of_right_ne_nil name.toList (List.cons_ne_nil '=' value.toList))
  unfold Word.of
  rw [htext, hcs]
  change Word.long (String.ofList (Text.cut '=' (c :: cs)).1)
    (if (c :: cs).contains '=' then some (String.ofList (Text.cut '=' (c :: cs)).2) else none) = _
  rw [← hcs, Text.cut_append hname, if_pos (by simp), String.ofList_toList, String.ofList_toList]

theorem number_repr {limit n : Nat} (h : n < limit) : number? limit (toString n) = some n := by
  obtain ⟨c, cs, hcs⟩ := List.exists_cons_of_ne_nil (@Nat.toDigits_ne_nil n 10)
  have hplus : c ≠ '+' := by
    have hdigit : c.isDigit = true :=
      Nat.isDigit_of_mem_toDigits (by decide) (by decide) (hcs ▸ List.mem_cons_self)
    rintro rfl
    exact absurd hdigit (by decide)
  have hread : Text.ofDigits? 10 (c :: cs) = some n := by rw [← hcs, Text.ofDigits_toDigits]
  simp [number?, hcs, hplus, hread, h]

theorem positive_repr {n : UInt32} (h : 0 < n) : positive32? (toString n.toNat) = some n := by
  have hpos : 0 < n.toNat := UInt32.lt_iff_toNat_lt.mp h
  have hnumber : number? UInt32.size (toString n.toNat) = some n.toNat := number_repr n.toNat_lt
  rw [positive32?, hnumber]
  simp [hpos]

theorem next_attached {r : Reading} {front name : String} {setting : Setting}
    (hfront : front.toList = '-' :: '-' :: (name.toList ++ ['='])) (hname : '=' ∉ name.toList)
    (hsetting : r.draft.named? name = some setting) (hopen : r.onlyWords = false)
    (hdraft : r.draft.isHelp = false) (hpending : r.pending = none) (value : String) :
    r.next (front ++ value) = r.store setting value := by
  simp [Reading.next, word_attached hfront hname, hopen, hdraft, hpending, hsetting, Reading.option]

theorem read_nodes (query : String) {page size : UInt32} (hpage : 0 < page) (hsize : 0 < size) :
    read ["nodes", "--query=" ++ query, "--page=" ++ toString page.toNat,
        "--size=" ++ toString size.toNat] = .ok ⟨{}, .nodes query page size⟩ := by
  have hcommand : Reading.next {} "nodes" = .ok { draft := .nodes none none none } := by decide
  have hquery : Reading.next { draft := .nodes none none none } ("--query=" ++ query) =
      .ok { draft := .nodes (some query) none none } := by
    rw [@next_attached _ _ "query" .query rfl (by decide) rfl rfl rfl rfl]
    rfl
  have hnumber : Reading.next { draft := .nodes (some query) none none }
      ("--page=" ++ toString page.toNat) = .ok { draft := .nodes (some query) (some page) none } := by
    rw [@next_attached _ _ "page" .page rfl (by decide) rfl rfl rfl rfl,
      Reading.store, Reading.store?.eq_def]
    simp only [positive_repr hpage]
    rfl
  have hlength : Reading.next { draft := .nodes (some query) (some page) none }
      ("--size=" ++ toString size.toNat) =
        .ok { draft := .nodes (some query) (some page) (some size) } := by
    rw [@next_attached _ _ "size" .size rfl (by decide) rfl rfl rfl rfl,
      Reading.store, Reading.store?.eq_def]
    simp only [positive_repr hsize]
    rfl
  simp only [read, List.foldlM_cons, List.foldlM_nil, bind, Except.bind, hcommand, hquery, hnumber,
    hlength]
  rfl

end GraphBrowser.CommandLine
