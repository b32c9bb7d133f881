import GraphBrowser.Proofs.Json.Document

namespace GraphBrowser.Json

mutual

/-- How many brackets are open at the deepest place of the text of a value. -/
def Value.nesting : Value → Nat
  | .array xs => itemsNesting xs + 1
  | .object ms => membersNesting ms + 1
  | _ => 0

def itemsNesting : List Value → Nat
  | [] => 0
  | x :: xs => max x.nesting (itemsNesting xs)

def membersNesting : List (String × Value) → Nat
  | [] => 0
  | (_, v) :: ms => max v.nesting (membersNesting ms)

end

theorem itemsNesting_le {xs : List Value} {n : Nat} (h : ∀ x ∈ xs, x.nesting ≤ n) :
    itemsNesting xs ≤ n := by
  induction xs with
  | nil => exact Nat.zero_le n
  | cons x xs ih =>
    rw [List.forall_mem_cons] at h
    exact Nat.max_le.mpr ⟨h.1, ih h.2⟩

theorem membersNesting_le {ms : List (String × Value)} {n : Nat} (h : ∀ m ∈ ms, m.2.nesting ≤ n) :
    membersNesting ms ≤ n := by
  induction ms with
  | nil => exact Nat.zero_le n
  | cons m ms ih =>
    rw [List.forall_mem_cons] at h
    exact Nat.max_le.mpr ⟨h.1, ih h.2⟩

theorem isHex_digitChar {n : Nat} (h : n < 16) : IsHex (Nat.digitChar n) n := ⟨h, .inl rfl⟩

theorem charText_control {c : Char} (h : c.toNat < 0x20) :
    CharText c ('\\' :: 'u' :: '0' :: '0' :: controlDigits c.toNat) := by
  have hhex : Hex4 ['0', '0', Nat.digitChar (c.toNat / 16), Nat.digitChar (c.toNat % 16)]
      (((0 * 16 + 0) * 16 + c.toNat / 16) * 16 + c.toNat % 16) :=
    .digits (isHex_digitChar (by decide)) (isHex_digitChar (by decide))
      (isHex_digitChar (by omega)) (isHex_digitChar (by omega))
  have hn : ((0 * 16 + 0) * 16 + c.toNat / 16) * 16 + c.toNat % 16 = c.toNat := by omega
  rw [hn] at hhex
  exact .hex hhex

theorem charText_escapedChar (c : Char) : CharText c (escapedChar c) := by
  unfold escapedChar
  split_ifs with hquote hslash hb ht hn hf hr hcontrol
  · exact .short (by rw [hquote]; decide)
  · exact .short (by rw [hslash]; decide)
  · exact .short (by rw [hb]; decide)
  · exact .short (by rw [ht]; decide)
  · exact .short (by rw [hn]; decide)
  · exact .short (by rw [hf]; decide)
  · exact .short (by rw [hr]; decide)
  · exact charText_control hcontrol
  · exact .plain (by omega) hquote hslash

theorem charsText_escaped (cs : List Char) : CharsText cs (cs.flatMap escapedChar ++ ['"']) := by
  induction cs with
  | nil => exact .quote
  | cons c cs ih =>
    rw [List.flatMap_cons, List.append_assoc]
    exact .char (charText_escapedChar c) ih

def Compact (t : Writing) (v : Value) : Prop := t.Has v.nesting v.print

def CompactMember (t : Writing) (m : String × Value) : Prop :=
  ∃ u, t = .member m.1 u ∧ Compact u m.2

theorem Compact.text {t : Writing} {v : Value} (h : Compact t v) : t.Text v.nesting v.text :=
  ⟨[], v.print, [], blank_nil, h, blank_nil, by simp [Value.text]⟩

theorem compact_string (s : String) : Compact (.string s) (.string s) :=
  ⟨rfl, _, charsText_escaped s.toList, rfl⟩

theorem compact_int (n : Int) : Compact (.int n) (.number (.int n)) := ⟨rfl, rfl⟩

theorem compact_bool (b : Bool) : Compact (.bool b) (.bool b) := by
  cases b <;> exact ⟨rfl, rfl⟩

def printedItems : List Value → List Char
  | [] => [']']
  | x :: xs => ',' :: (x.print ++ printedItems xs)

theorem printItems_cons (x : Value) (xs : List Value) :
    printItems (x :: xs) = x.print ++ printedItems xs := by
  induction xs generalizing x with
  | nil => simp [printItems, printedItems]
  | cons y ys ih => rw [printItems, ih, printedItems]

theorem row_printedItems {ts : List Writing} {xs : List Value} (h : List.Forall₂ Compact ts xs) :
    Row ']' false ts (itemsNesting xs) (printedItems xs) := by
  induction h with
  | nil => exact .close blank_nil
  | cons hx _ ih => exact .comma blank_nil blank_nil hx ih

theorem compact_list {ts : List Writing} {xs : List Value} (h : List.Forall₂ Compact ts xs) :
    Compact (.list ts) (.array xs) := by
  refine ⟨itemsNesting xs, printItems xs, ?_, rfl, rfl⟩
  cases h with
  | nil => exact .close blank_nil
  | cons hx h =>
    rw [printItems_cons]
    exact .first blank_nil hx (row_printedItems h)

def printedMembers : List (String × Value) → List Char
  | [] => ['\x7d']
  | (key, v) :: ms => ',' :: (printString key ++ ':' :: (v.print ++ printedMembers ms))

theorem printMembers_cons (key : String) (v : Value) (ms : List (String × Value)) :
    printMembers ((key, v) :: ms) = printString key ++ ':' :: (v.print ++ printedMembers ms) := by
  induction ms generalizing key v with
  | nil => rfl
  | cons m ms ih => rw [printMembers, ih, printedMembers]

theorem has_member {u : Writing} {v : Value} (key : String) (h : Compact u v) :
    (Writing.member key u).Has v.nesting (printString key ++ ':' :: v.print) := by
  refine ⟨key.toList.flatMap escapedChar ++ ['"'], [], [], v.print, charsText_escaped _, blank_nil,
    blank_nil, h, ?_⟩
  simp [printString]

theorem row_printedMembers {ts : List Writing} {ms : List (String × Value)}
    (h : List.Forall₂ CompactMember ts ms) :
    Row '\x7d' false ts (membersNesting ms) (printedMembers ms) := by
  induction h with
  | nil => exact .close blank_nil
  | @cons _ m ts ms hm _ ih =>
    obtain ⟨key, v⟩ := m
    obtain ⟨u, rfl, hu⟩ := hm
    have hrow := Row.comma blank_nil blank_nil (has_member key hu) ih
    simpa [printedMembers, membersNesting] using hrow

theorem compact_object {ts : List Writing} {ms : List (String × Value)}
    (h : List.Forall₂ CompactMember ts ms) : Compact (.object ts) (.object ms) := by
  refine ⟨membersNesting ms, printMembers ms, ?_, rfl, rfl⟩
  cases h with
  | nil => exact .close blank_nil
  | @cons _ m ts ms hm h =>
    obtain ⟨key, v⟩ := m
    obtain ⟨u, rfl, hu⟩ := hm
    have hrow := Row.first blank_nil (has_member key hu) (row_printedMembers h)
    rw [printMembers_cons]
    simpa [membersNesting] using hrow

mutual

theorem compact_value : (v : Value) → v.Exact → Compact v.writing v
  | .null, _ => ⟨rfl, rfl⟩
  | .bool b, _ => compact_bool b
  | .number (.int n), _ => compact_int n
  | .number (.float _), h => h.elim
  | .string s, _ => compact_string s
  | .array xs, h => compact_list (compact_items xs h)
  | .object ms, h => ⟨memberWritings ms, .refl _, compact_object (compact_members ms h.2)⟩

theorem compact_items : (xs : List Value) → ExactItems xs →
    List.Forall₂ Compact (itemWritings xs) xs
  | [], _ => .nil
  | x :: xs, h => .cons (compact_value x h.1) (compact_items xs h.2)

theorem compact_members : (ms : List (String × Value)) → ExactMembers ms →
    List.Forall₂ CompactMember (memberWritings ms) ms
  | [], _ => .nil
  | (_, v) :: ms, h => .cons ⟨v.writing, rfl, compact_value v h.1⟩ (compact_members ms h.2)

end

def CompactField (slot : Slot) (m : String × Value) : Prop :=
  slot.key = m.1 ∧ Compact slot.writing m.2

theorem arranged_all (keys : List String) (slots : List Slot) :
    Arranged keys slots (slots.map fun slot => .member slot.key slot.writing) := by
  induction slots with
  | nil => exact .done
  | cons slot slots ih => exact .field ih

theorem compact_record {slots : List Slot} {ms : List (String × Value)}
    (hn : (slots.map Slot.key).Nodup) (h : List.Forall₂ CompactField slots ms) :
    Compact (.record slots) (.object ms) := by
  have hms : List.Forall₂ CompactMember (slots.map fun slot => .member slot.key slot.writing) ms := by
    induction h with
    | nil => exact .nil
    | cons hm _ ih =>
      obtain ⟨hkey, hv⟩ := hm
      exact .cons ⟨_, congrArg (Writing.member · _) hkey, hv⟩ (ih (List.nodup_cons.mp hn).2)
  exact .inl ⟨slots, _, hn, fun _ hs => hs, fun _ hs => .inl hs, arranged_all _ slots,
    compact_object hms⟩

end GraphBrowser.Json
