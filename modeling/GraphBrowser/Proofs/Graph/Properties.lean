import GraphBrowser.Graph.Properties
import GraphBrowser.Proofs.Json.Members

namespace GraphBrowser

open Json

theorem insertEntry_new {key : String} {entries : List (String × Value)} (value : Value)
    (h : key ∉ entries.map Prod.fst) : insertEntry key value entries = entries ++ [(key, value)] := by
  induction entries with
  | nil => rfl
  | cons e entries ih =>
    rw [List.map_cons, List.mem_cons, not_or] at h
    rw [insertEntry, if_neg (Ne.symm h.1), ih h.2]
    rfl

theorem find_insertEntry (key k : String) (v : Value) (entries : List (String × Value)) :
    ((insertEntry k v entries).find? fun e => e.1 == key).map Prod.snd =
      if k = key then some v else (entries.find? fun e => e.1 == key).map Prod.snd := by
  induction entries with
  | nil => by_cases h : k = key <;> simp [insertEntry, h]
  | cons e entries ih =>
    obtain ⟨k', v'⟩ := e
    by_cases hk' : k' = k
    · by_cases h : k = key <;> simp [insertEntry, hk', h]
    · rw [insertEntry, if_neg hk']
      by_cases hkey : k' = key
      · have h : k ≠ key := fun he => hk' (hkey.trans he.symm)
        simp [hkey, h]
      · simpa [hkey] using ih

namespace Properties

theorem eq_of_entries {p q : Properties} (h : p.entries = q.entries) : p = q := by
  cases p
  cases q
  cases h
  rfl

theorem ofList_append (ms : List (String × Value)) (key : String) (value : Value) :
    ofList (ms ++ [(key, value)]) = (ofList ms).insert key value := by
  simp [ofList]

theorem entries_ofList {ms : List (String × Value)} (h : (ms.map Prod.fst).Nodup) :
    (ofList ms).entries = ms := by
  induction ms using List.reverseRecOn with
  | nil => rfl
  | append_singleton ms m ih =>
    obtain ⟨key, value⟩ := m
    rw [List.map_append, List.nodup_append] at h
    obtain ⟨hnodup, _, hdisj⟩ := h
    have hnew : key ∉ ms.map Prod.fst := fun hm => hdisj key hm key (by simp) rfl
    rw [ofList_append]
    change insertEntry key value (ofList ms).entries = _
    rw [ih hnodup, insertEntry_new value hnew]

theorem get?_insert (p : Properties) (key k : String) (v : Value) :
    (p.insert k v).get? key = if k = key then some v else p.get? key :=
  find_insertEntry key k v p.entries

theorem get?_ofList (key : String) (ms : List (String × Value)) :
    (ofList ms).get? key = lastValue? key ms := by
  induction ms using List.reverseRecOn with
  | nil => rfl
  | append_singleton ms m ih =>
    rw [ofList_append, get?_insert, lastValue?_append, ih]

theorem keys_ofList (ms : List (String × Value)) : (ofList ms).keys = (ms.map Prod.fst).eraseDups := by
  induction ms using List.reverseRecOn with
  | nil => rfl
  | append_singleton ms m ih =>
    rw [ofList_append, keys_insert, ih, List.map_append, List.map_singleton, List.eraseDups_append]
    by_cases h : m.1 ∈ ms.map Prod.fst <;> simp [h, List.removeAll, List.eraseDups_cons]

theorem get?_of_mem {p : Properties} {e : String × Value} (h : e ∈ p.entries) :
    p.get? e.1 = some e.2 := by
  obtain ⟨entries, hnodup⟩ := p
  unfold get?
  dsimp only at h ⊢
  induction entries with
  | nil => cases h
  | cons e' entries ih =>
    obtain ⟨hnotin, hnodup⟩ := List.nodup_cons.mp hnodup
    obtain rfl | h := List.mem_cons.mp h
    · simp
    · have hne : e'.1 ≠ e.1 := fun he => hnotin (he ▸ List.mem_map_of_mem h)
      simpa [hne] using ih hnodup h

theorem entries_eq (p : Properties) :
    p.entries = p.keys.map fun key => (key, (p.get? key).getD .null) := by
  have hentry : ∀ e ∈ p.entries, (e.1, (p.get? e.1).getD .null) = e := by
    intro e he
    rw [get?_of_mem he, Option.getD_some]
  rw [keys, List.map_map]
  exact (List.map_congr_left hentry |>.trans (List.map_id p.entries)).symm

theorem isEmpty_ofList (ms : List (String × Value)) : (ofList ms).isEmpty = ms.isEmpty := by
  have hkeys := keys_ofList ms
  cases ms with
  | nil => rfl
  | cons m ms =>
    rw [List.map_cons, List.eraseDups_cons] at hkeys
    cases hentries : (ofList (m :: ms)).entries with
    | nil => simp [keys, hentries] at hkeys
    | cons e entries => simp [isEmpty, hentries]

end Properties

end GraphBrowser
