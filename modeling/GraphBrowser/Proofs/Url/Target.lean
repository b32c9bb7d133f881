import GraphBrowser.Url.Basic
import GraphBrowser.Proofs.Url.Form

namespace GraphBrowser.Url

theorem question_not_mem_percentEncode (cs : List Char) : '?' ∉ percentEncode keepInPath cs := by
  intro h
  obtain ⟨c, _, h⟩ := List.mem_flatMap.mp h
  split at h
  · rename_i hc
    rw [← List.mem_singleton.mp h] at hc
    exact absurd hc (by decide)
  · obtain ⟨b, _, h⟩ := List.mem_flatMap.mp h
    rcases Form.mem_encodeByte h with hp | hp
    · exact absurd hp (by decide)
    · exact absurd hp (by decide)

theorem stepOut_subset (path : List String) : stepOut path ⊆ path := by
  unfold stepOut
  split
  · exact List.Subset.refl path
  · exact List.dropLast_subset path

theorem mem_follow {path : List String} {segments : List (List Char)} {s : String}
    (h : s ∈ follow path segments) : s ∈ path ∨ s = "" ∨ ∃ cs, s = encoded keepInPath cs := by
  induction segments generalizing path with
  | nil => exact .inl h
  | cons segment segments ih =>
    have hempty : s ∈ (if segments.isEmpty then [""] else []) → s = "" := by
      intro hs
      split at hs
      · exact List.mem_singleton.mp hs
      · cases hs
    unfold follow at h
    split at h
    · rcases ih h with hs | hs
      · exact (List.mem_append.mp hs).imp (stepOut_subset path ·) (.inl <| hempty ·)
      · exact .inr hs
    · split at h
      · rcases ih h with hs | hs
        · exact (List.mem_append.mp hs).imp id (.inl <| hempty ·)
        · exact .inr hs
      · rcases ih h with hs | hs
        · exact (List.mem_append.mp hs).imp id fun hs => .inr ⟨segment, List.mem_singleton.mp hs⟩
        · exact .inr hs

theorem mem_pathOf {cs : List Char} {s : String} (h : s ∈ pathOf cs) :
    s = "" ∨ ∃ cs, s = encoded keepInPath cs := by
  unfold pathOf at h
  dsimp only at h
  split at h <;> exact (mem_follow h).resolve_left List.not_mem_nil

theorem question_not_mem_pathOf (cs : List Char) : ∀ segment ∈ pathOf cs, '?' ∉ segment.toList := by
  intro segment hs
  rcases mem_pathOf hs with rfl | ⟨part, rfl⟩
  · exact List.not_mem_nil
  · rw [encoded, String.toList_ofList]
    exact question_not_mem_percentEncode part

theorem follow_last {last : List Char} (hdouble : isDoubleDot last = false)
    (hsingle : isSingleDot last = false) (path : List String) (segments : List (List Char)) :
    ∃ front, follow path (segments ++ [last]) = front ++ [encoded keepInPath last] := by
  induction segments generalizing path with
  | nil =>
    rw [List.nil_append, follow, if_neg (by simp [hdouble]), if_neg (by simp [hsingle])]
    exact ⟨path, rfl⟩
  | cons segment segments ih =>
    rw [List.cons_append, follow]
    split
    · exact ih _
    · split <;> exact ih _

theorem pathOf_last {last : List Char} (hslash : '/' ∉ last) (hbackslash : '\\' ∉ last)
    (hdouble : isDoubleDot last = false) (hsingle : isSingleDot last = false) (cs : List Char) :
    ∃ front, pathOf (cs ++ '/' :: last) = front ++ [encoded keepInPath last] := by
  have hsame : ∀ c ∈ last, (if c = '\\' then '/' else c) = id c := by
    intro c hc
    have hne : c ≠ '\\' := fun he => hbackslash (he ▸ hc)
    rw [if_neg hne, id]
  have hslashed : (cs ++ '/' :: last).map (fun c => if c = '\\' then '/' else c) =
      cs.map (fun c => if c = '\\' then '/' else c) ++ '/' :: last := by
    rw [List.map_append, List.map_cons, List.map_congr_left hsame, List.map_id]
    rfl
  unfold pathOf
  simp only [hslashed]
  generalize cs.map (fun c => if c = '\\' then '/' else c) = slashed
  cases slashed with
  | nil =>
    change ∃ front, follow [] (Text.pieces '/' last) = front ++ [encoded keepInPath last]
    rw [Text.pieces_plain hslash]
    exact follow_last hdouble hsingle [] []
  | cons c slashed =>
    rw [List.cons_append]
    split
    · rename_i rest hrest
      injection hrest with _ hrest
      rw [← hrest, Text.pieces_concat hslash]
      exact follow_last hdouble hsingle [] _
    · rw [← List.cons_append, Text.pieces_concat hslash]
      exact follow_last hdouble hsingle [] _

theorem encode_ne_nil {ps : Form.Parameters} (h : ps ≠ []) : Form.encode ps ≠ [] := by
  intro he
  have hpieces := Form.pieces_encode h
  rw [he] at hpieces
  cases ps with
  | nil => exact h rfl
  | cons p ps =>
    injection hpieces with hp _
    simp [Form.encodePair] at hp

theorem withParameters_eq {u : Url} (hquery : u.query = none) {ps : Form.Parameters} (h : ps ≠ []) :
    u.withParameters ps = { u with query := some (String.ofList (Form.encode ps)) } := by
  simp [withParameters, hquery, h, encode_ne_nil h]

theorem question_not_mem_path {path : List String} (h : ∀ segment ∈ path, '?' ∉ segment.toList) :
    '?' ∉ (String.join (path.map fun segment => "/" ++ segment)).toList := by
  rw [String.toList_join, List.mem_flatMap]
  rintro ⟨s, hs, hmem⟩
  obtain ⟨segment, hsegment, rfl⟩ := List.mem_map.mp hs
  rw [String.toList_append, List.mem_append] at hmem
  exact hmem.elim (by simp) (h segment hsegment)

theorem target_without_parameters {u : Url} (hquery : u.query = none) :
    (u.withParameters []).target = String.join (u.path.map fun segment => "/" ++ segment) := by
  simp [target, withParameters, hquery]

theorem cut_target {u : Url} (hquery : u.query = none)
    (hpath : ∀ segment ∈ u.path, '?' ∉ segment.toList) (ps : Form.Parameters) :
    Text.cut '?' (u.withParameters ps).target.toList =
      ((String.join (u.path.map fun segment => "/" ++ segment)).toList, Form.encode ps) := by
  have hplain := question_not_mem_path hpath
  by_cases h : ps = []
  · subst h
    rw [target_without_parameters hquery, Text.cut_plain hplain]
    rfl
  · have htarget : (u.withParameters ps).target.toList =
        (String.join (u.path.map fun segment => "/" ++ segment)).toList ++ '?' :: Form.encode ps := by
      simp [target, withParameters_eq hquery h]
    rw [htarget, Text.cut_append hplain]

theorem parameters_target {u : Url} (hquery : u.query = none)
    (hpath : ∀ segment ∈ u.path, '?' ∉ segment.toList) (ps : Form.Parameters) :
    Form.decode (Text.cut '?' (u.withParameters ps).target.toList).2 = ps := by
  rw [cut_target hquery hpath, Form.decode_encode]

theorem target_withoutCredentials (u : Url) : u.withoutCredentials.target = u.target := by
  unfold withoutCredentials
  split <;> rfl

theorem length_le_text {u : Url} (hquery : u.query = none) {ps : Form.Parameters}
    {p : String × String} (h : p ∈ ps) : p.2.length ≤ (u.withParameters ps).text.length := by
  have hne : ps ≠ [] := List.ne_nil_of_mem h
  have hencode := Form.length_encode h
  have htarget : (Form.encode ps).length ≤ (u.withParameters ps).target.length := by
    simp [target, withParameters_eq hquery hne]
    omega
  have htext : (u.withParameters ps).target.length ≤ (u.withParameters ps).text.length := by
    simp only [text, String.length_append]
    omega
  omega

end GraphBrowser.Url
