import GraphBrowser.Page.Wire
import GraphBrowser.Proofs.Graph.Layout

namespace GraphBrowser.ResultPage

open Json

variable {α : Type}

def slots (p : ResultPage α) (content : List Writing) : List Slot := [
  ⟨"content", p.content = [], .list content⟩,
  ⟨"number", False, .int p.number.toNat⟩,
  ⟨"size", False, .int p.size.toNat⟩,
  ⟨"totalElements", False, .int p.totalElements.toNat⟩,
  ⟨"totalPages", False, .int p.totalPages.toNat⟩,
  ⟨"numberOfElements", False, .int p.numberOfElements.toNat⟩,
  ⟨"first", False, .bool p.first⟩,
  ⟨"last", False, .bool p.last⟩]

def writing (item : α → Writing) (p : ResultPage α) : Writing :=
  .record (p.slots (p.content.map item))

def draft (p : ResultPage α) (keys : List String) : Draft α where
  content := drafted keys "content" p.content
  number := drafted keys "number" p.number
  size := drafted keys "size" p.size
  totalElements := drafted keys "totalElements" p.totalElements
  totalPages := drafted keys "totalPages" p.totalPages
  numberOfElements := drafted keys "numberOfElements" p.numberOfElements
  first := drafted keys "first" p.first
  last := drafted keys "last" p.last

theorem finish_draft (p : ResultPage α) (content : List Writing) (keys : List String)
    (h : ∀ slot ∈ p.slots content, slot.key ∈ keys ∨ slot.optional) :
    (p.draft keys).finish = .ok p := by
  simp only [slots, List.forall_mem_cons, or_false] at h
  obtain ⟨hcontent, hnumber, hsize, htotal, hpages, hcount, hfirst, hlast, _⟩ := h
  simp only [Draft.finish, draft, getD_drafted hcontent, require_drafted hnumber,
    require_drafted hsize, require_drafted htotal, require_drafted hpages, require_drafted hcount,
    require_drafted hfirst, require_drafted hlast]
  rfl

theorem shapeReads (p : ResultPage α) {levels : Nat} {content : List Writing}
    {item : Option (Reader α)} (h : Reads levels (listReader item) (.list content) p.content) :
    ShapeReads levels p.draft (shape item) (p.slots content) p where
  fields :=
    .cons (fieldReads_of rfl (by simp) (isSome_drafted · _ _) (by simp [draft]) h) <|
    .cons (fieldReads_of rfl (by simp) (isSome_drafted · _ _) (by simp [draft])
        (reads_word32 levels p.number)) <|
    .cons (fieldReads_of rfl (by simp) (isSome_drafted · _ _) (by simp [draft])
        (reads_word32 levels p.size)) <|
    .cons (fieldReads_of rfl (by simp) (isSome_drafted · _ _) (by simp [draft])
        (reads_word64 levels p.totalElements)) <|
    .cons (fieldReads_of rfl (by simp) (isSome_drafted · _ _) (by simp [draft])
        (reads_word32 levels p.totalPages)) <|
    .cons (fieldReads_of rfl (by simp) (isSome_drafted · _ _) (by simp [draft])
        (reads_word32 levels p.numberOfElements)) <|
    .cons (fieldReads_of rfl (by simp) (isSome_drafted · _ _) (by simp [draft])
        (reads_bool levels p.first)) <|
    .cons (fieldReads_of rfl (by simp) (isSome_drafted · _ _) (by simp [draft])
        (reads_bool levels p.last)) .nil
  nodup := by simp [slots]
  start := by simp [draft, shape]
  finish := p.finish_draft content

theorem reads_content {reader : Reader α} {levels : Nat} {item : α → Writing} {xs : List α}
    (h : ∀ x ∈ xs, Reads levels reader (item x) x) :
    List.Forall₂ (Reads levels reader) (xs.map item) xs := by
  induction xs with
  | nil => exact .nil
  | cons x xs ih =>
    rw [List.forall_mem_cons] at h
    exact .cons h.1 (ih h.2)

theorem reads (p : ResultPage α) {item : Nat → Reader α} {writing : α → Writing}
    (h : ∀ x ∈ p.content, ∀ levels, Reads levels (item levels) (writing x) x) :
    ∀ levels, Reads levels (reader item levels) (p.writing writing) p
  | 0 => @reads_record_none (Draft α) _ _ _ _
  | 1 => reads_record _ (p.shapeReads (reads_list_none _ _))
  | levels + 2 => reads_record _ (p.shapeReads (reads_list (reads_content fun x hx => h x hx levels)))

end GraphBrowser.ResultPage
