import GraphBrowser.Proofs.Graph.Layout
import GraphBrowser.Proofs.Json.Accepted.Foreign

namespace GraphBrowser.GraphInfo

open Json

def InObject (text description : String) : Prop :=
  ∃ ms depth, Arranged ["info"] [⟨"info", False, .string description⟩] ms ∧
    (Writing.object ms).Text depth text

def InList (text description : String) : Prop :=
  ∃ depth, (Writing.list [.string description]).Text depth text

theorem takes_string : Takes 0 stringReader Writing.string fun s => s := by
  intro cs s rest h
  unfold stringReader at h
  split at h
  · rename_i hspace
    obtain ⟨w, hw, rfl⟩ := blank_of_skipSpace hspace
    obtain ⟨body, hbody, rfl⟩ := stringText_of_read h
    exact ⟨s, 0, w, '"' :: body, rfl, Nat.le_refl 0, hw, ⟨rfl, body, hbody, rfl⟩, rfl⟩
  · cases h

theorem field_of_find {key : String} {field : Json.Field Draft}
    (h : shape.fields.find? (fun f => f.key == key) = some field) :
    key = "info" ∧ field = .of "info" true (·.info) (fun _ x => ⟨some x⟩) stringReader := by
  have hfield := List.mem_singleton.mp (List.mem_of_find?_eq_some h)
  obtain ⟨hkey, -⟩ := List.find?_eq_some_iff_append.mp h
  rw [hfield] at hkey
  exact ⟨(beq_iff_eq.mp hkey).symm, hfield⟩

theorem arranged_of_read {n : Nat} {first : Bool} {draft draft' : Draft} {cs rest : List Char}
    (h : readFieldsWithin shape.fields n first draft cs = .ok (draft', rest)) :
    ∃ slots ms depth row, Arranged ["info"] slots ms ∧ Row '\x7d' first ms depth row ∧
      cs = row ++ rest ∧ (slots = [] ∧ draft' = draft ∨ draft.info = none ∧
        ∃ s, slots = [⟨"info", False, .string s⟩] ∧ draft' = ⟨some s⟩) := by
  induction n generalizing first draft cs with
  | zero => cases h
  | succ n ih =>
    obtain ⟨next, hnext, h⟩ := bind_eq_ok.mp h
    cases next with
    | none =>
      cases h
      obtain ⟨w, hw, hcs⟩ := closed_of_nextKey hnext
      exact ⟨[], [], 0, w ++ ['\x7d'], .done, .close hw, by simpa using hcs, .inl ⟨rfl, rfl⟩⟩
    | some p =>
      obtain ⟨key, ds⟩ := p
      dsimp only at h
      split at h
      · rename_i hfind
        obtain ⟨es, hcolon, h⟩ := bind_eq_ok.mp h
        obtain ⟨fs, hskip, h⟩ := bind_eq_ok.mp h
        obtain ⟨slots, ms, depth, body, hms, hbody, rfl, hslots⟩ := ih h
        obtain ⟨v, x, hv, hx, rfl⟩ := any_of_skipValue hskip
        have hforeign : Writing.foreign.Has 0 x := ⟨rfl, hx⟩
        obtain ⟨row, hrow, hcs⟩ := row_of_member hnext hcolon hv hforeign hbody
        have hkey : key ∉ ["info"] := by
          intro hmem
          obtain rfl := List.mem_singleton.mp hmem
          cases hfind
        exact ⟨slots, _, _, row, .foreign hkey hms, hrow, hcs, hslots⟩
      · rename_i field hfind
        obtain ⟨rfl, rfl⟩ := field_of_find hfind
        split at h
        · cases h
        · rename_i hset
          obtain ⟨es, hcolon, h⟩ := bind_eq_ok.mp h
          obtain ⟨⟨draft₁, fs⟩, hread, h⟩ := bind_eq_ok.mp h
          obtain ⟨⟨s, fs⟩, hstring, heq⟩ := map_eq_ok.mp hread
          cases heq
          -- The description has been read now, so the members behind it are foreign ones.
          obtain ⟨slots, ms, depth, body, hms, hbody, rfl, ⟨rfl, rfl⟩ | ⟨hnone, -⟩⟩ := ih h
          · obtain ⟨_, _, v, text, rfl, -, hv, htext, rfl⟩ := takes_string hstring
            obtain ⟨row, hrow, hcs⟩ := row_of_member hnext hcolon hv htext hbody
            have hunread : draft.info = none := by simpa [Field.of] using hset
            exact ⟨_, _, _, row, .field hms, hrow, hcs, .inr ⟨hunread, _, rfl, rfl⟩⟩
          · cases hnone

theorem info_of_finish {draft : Draft} {description : String}
    (h : shape.finish draft = .ok ⟨description⟩) : draft = ⟨some description⟩ := by
  obtain ⟨info⟩ := draft
  cases info with
  | none => cases h
  | some s =>
    cases h
    rfl

theorem object_of_read {cs rest : List Char} {description : String}
    (h : shape.readObject cs = .ok (⟨description⟩, rest)) :
    ∃ ms depth row, Arranged ["info"] [⟨"info", False, .string description⟩] ms ∧
      Row '\x7d' true ms depth row ∧ cs = row ++ rest := by
  obtain ⟨⟨draft, rest'⟩, hread, h⟩ := bind_eq_ok.mp h
  obtain ⟨g, hfinish, heq⟩ := bind_eq_ok.mp h
  cases heq
  obtain rfl := info_of_finish hfinish
  obtain ⟨slots, ms, depth, row, hms, hrow, hcs, ⟨-, hdraft⟩ | ⟨-, s, rfl, hdraft⟩⟩ :=
    arranged_of_read hread
  · cases hdraft
  · cases hdraft
    exact ⟨ms, depth, row, hms, hrow, hcs⟩

theorem list_of_read {cs rest : List Char} {description : String}
    (h : shape.readList cs = .ok (⟨description⟩, rest)) :
    ∃ depth row, Row ']' true [.string description] depth row ∧ cs = row ++ rest := by
  obtain ⟨⟨draft, ds⟩, hread, h⟩ := bind_eq_ok.mp h
  obtain ⟨g, hfinish, h⟩ := bind_eq_ok.mp h
  obtain ⟨rest', hclose, heq⟩ := bind_eq_ok.mp h
  cases heq
  obtain rfl := info_of_finish hfinish
  obtain ⟨next, hnext, hread⟩ := bind_eq_ok.mp hread
  cases next with
  | none => cases hread
  | some es =>
    obtain ⟨⟨draft', fs⟩, hfield, hread⟩ := bind_eq_ok.mp hread
    obtain ⟨⟨s, fs⟩, hstring, heq⟩ := map_eq_ok.mp hfield
    cases heq
    cases hread
    obtain ⟨_, _, v, text, rfl, -, hv, htext, rfl⟩ := takes_string hstring
    obtain ⟨w, hw, rfl⟩ := closed_of_closeList hclose
    have hleads : Leads true cs (v ++ (text ++ ((w ++ [']']) ++ rest))) := by
      simpa using leads_of_nextItem hnext
    obtain ⟨row, hrow, hcs⟩ := row_of_leads hleads hv htext (.close hw)
    exact ⟨_, row, hrow, hcs⟩

/-- A text is read as graph information if it is an object or a list that holds the description, and
not otherwise. -/
theorem parse_eq_ok_iff {text description : String} :
    parse text = .ok ⟨description⟩ ↔ InObject text description ∨ InList text description := by
  constructor
  · intro h
    obtain ⟨⟨g, rest⟩, hread, h⟩ := bind_eq_ok.mp h
    dsimp only at h
    split at h
    · rename_i hspace
      cases h
      obtain ⟨w', hw', rfl⟩ := blank_of_skipSpace hspace
      unfold reader recordReader at hread
      split at hread
      · rename_i hopen
        obtain ⟨w, hw, htext⟩ := blank_of_skipSpace hopen
        obtain ⟨ms, depth, row, hms, hrow, rfl⟩ := object_of_read hread
        exact .inl ⟨ms, depth + 1, hms, w, _, w', hw, ⟨depth, row, hrow, rfl, rfl⟩, hw',
          by simp [htext]⟩
      · rename_i hopen
        obtain ⟨w, hw, htext⟩ := blank_of_skipSpace hopen
        obtain ⟨depth, row, hrow, rfl⟩ := list_of_read hread
        exact .inr ⟨depth + 1, w, _, w', hw, ⟨depth, row, hrow, rfl, rfl⟩, hw', by simp [htext]⟩
      · cases hread
    · cases h
  · -- The brackets of foreign members do not count, so there are levels enough for any text.
    have hparse {depth : Nat} (h : (writing ⟨description⟩).Text depth text) :
        parse text = .ok ⟨description⟩ :=
      readText_ok (reads ⟨description⟩ depth) (Nat.le_succ depth) h
    rintro (⟨ms, depth, hms, w, x, w', hw, hx, hw', htext⟩ | ⟨depth, w, x, w', hw, hx, hw', htext⟩)
    · exact hparse ⟨w, x, w', hw, .inl ⟨slots ⟨description⟩, ms, by simp [slots], fun _ h => h,
        fun _ h => .inl h, hms, hx⟩, hw', htext⟩
    · exact hparse ⟨w, x, w', hw, .inr ⟨slots ⟨description⟩, [], rfl,
        fun _ h => absurd h List.not_mem_nil, hx⟩, hw', htext⟩

end GraphBrowser.GraphInfo
