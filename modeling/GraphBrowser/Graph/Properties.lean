import GraphBrowser.Json.Value

namespace GraphBrowser

open Json (Value)

def insertEntry (key : String) (value : Value) : List (String × Value) → List (String × Value)
  | [] => [(key, value)]
  | (k, v) :: rest => if k = key then (k, value) :: rest else (k, v) :: insertEntry key value rest

theorem keys_insertEntry (key : String) (value : Value) (entries : List (String × Value)) :
    (insertEntry key value entries).map Prod.fst =
      if key ∈ entries.map Prod.fst then entries.map Prod.fst
      else entries.map Prod.fst ++ [key] := by
  induction entries with
  | nil => simp [insertEntry]
  | cons e rest ih =>
    obtain ⟨k, v⟩ := e
    by_cases h : k = key
    · simp [insertEntry, h]
    · by_cases hm : key ∈ rest.map Prod.fst
      · simp_all [insertEntry]
      · have hk : ¬ key = k := fun e => h e.symm
        simp_all [insertEntry]

theorem nodup_insertEntry {entries : List (String × Value)} (key : String) (value : Value)
    (h : (entries.map Prod.fst).Nodup) : ((insertEntry key value entries).map Prod.fst).Nodup := by
  rw [keys_insertEntry]
  split
  · exact h
  · rename_i hk
    rw [List.nodup_append]
    refine ⟨h, by simp, ?_⟩
    intro a ha b hb hab
    simp only [List.mem_singleton] at hb
    exact hk (hb ▸ hab ▸ ha)

/-- Entries in insertion order, each key once. -/
structure Properties where
  entries : List (String × Value)
  nodup : (entries.map Prod.fst).Nodup
  deriving Repr

namespace Properties

def empty : Properties := ⟨[], by simp⟩

instance : Inhabited Properties := ⟨empty⟩

def isEmpty (p : Properties) : Bool := p.entries.isEmpty

def insert (p : Properties) (key : String) (value : Value) : Properties :=
  ⟨insertEntry key value p.entries, nodup_insertEntry key value p.nodup⟩

def keys (p : Properties) : List String := p.entries.map Prod.fst

def get? (p : Properties) (key : String) : Option Value :=
  (p.entries.find? fun (k, _) => k == key).map Prod.snd

/-- Insert members one after the other; of equal keys the first place and the last value count. -/
def ofList (members : List (String × Value)) : Properties :=
  members.foldl (fun p (key, value) => p.insert key value) empty

theorem keys_insert (p : Properties) (key : String) (value : Value) :
    (p.insert key value).keys = if key ∈ p.keys then p.keys else p.keys ++ [key] :=
  keys_insertEntry key value p.entries

end Properties

end GraphBrowser
