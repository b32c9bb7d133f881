import GraphBrowser.Listing.Navigator
import GraphBrowser.Proofs.Listing.Step

namespace GraphBrowser.Listing

/-- A server that cuts pages out of the nodes that match, none of them longer than `cap`. -/
def fetchCapped (nodes : List Node) (cap : UInt32) (ticket : Ticket) : PageOutcome :=
  fetchFrom nodes { ticket with size := min ticket.size cap }

def forth (size : UInt32) (k : Nat) : List Action := .load 0 size :: List.replicate k .next

def back (k : Nat) : List Action := List.replicate k .previous

variable {fetch : Ticket → PageOutcome} {nav : Navigator} {query : String} {found : List Node}
  {size : UInt32} {i : Nat}

theorem At.next_shown (hat : At query found size i nav) (h : Served fetch query found size)
    (hi : i + 1 < found.length ⌈/⌉ size.toNat) :
    Shown query found size (i + 1) (stepWith fetch nav .next) := by
  obtain ⟨p, hp, rfl, hcut⟩ := hat.cut
  have hlast : ¬ p.last = true := by
    rw [hcut.last_iff, hcut.totalPages_eq]
    omega
  have htarget : nav.target? .next = some (p.number + 1, nav.currentSize) := by
    rw [target_next hp, if_neg hlast]
  have hnumber : (p.number + 1).toNat = p.number.toNat + 1 := by
    have hcount := h.count_le
    exact toNat_add_one (by omega)
  rw [← hnumber]
  exact h.shown hat rfl htarget

theorem At.next_idle (hat : At query found size i nav)
    (hi : found.length ⌈/⌉ size.toNat ≤ i + 1) : stepWith fetch nav .next = (nav, []) := by
  obtain ⟨p, hp, rfl, hcut⟩ := hat.cut
  have hlast : p.last = true := by
    rw [hcut.last_iff, hcut.totalPages_eq]
    exact hi
  have htarget : nav.target? .next = none := by rw [target_next hp, if_pos hlast]
  exact stepWith_idle htarget

theorem At.previous_shown (hat : At query found size (i + 1) nav)
    (h : Served fetch query found size) :
    Shown query found size i (stepWith fetch nav .previous) := by
  obtain ⟨p, hp, hi, hcut⟩ := hat.cut
  have hfirst : ¬ p.first = true := by
    rw [hcut.first_iff, ← UInt32.toNat_inj, hi]
    exact Nat.succ_ne_zero i
  have htarget : nav.target? .previous = some (p.number - min p.number 1, nav.currentSize) := by
    rw [target_previous hp, if_neg hfirst]
  have hnumber : (p.number - min p.number 1).toNat = i := by
    rw [toNat_sub_min_one, hi, Nat.add_sub_cancel]
  rw [← hnumber]
  exact h.shown hat rfl htarget

theorem At.previous_idle (hat : At query found size 0 nav) :
    stepWith fetch nav .previous = (nav, []) := by
  obtain ⟨p, hp, hi, hcut⟩ := hat.cut
  have hfirst : p.first = true := hcut.first_iff.mpr (UInt32.toNat_inj.mp hi)
  have htarget : nav.target? .previous = none := by rw [target_previous hp, if_pos hfirst]
  exact stepWith_idle htarget

theorem At.run_next (hat : At query found size i nav) (h : Served fetch query found size) {k : Nat}
    (hk : i + k < max (found.length ⌈/⌉ size.toNat) 1) :
    List.Forall₂ (Shown query found size) (List.range' (i + 1) k)
        (runWith fetch nav (List.replicate k .next)) ∧
      At query found size (i + k) (endWith fetch nav (List.replicate k .next)) := by
  induction k generalizing i nav with
  | zero => exact ⟨.nil, hat⟩
  | succ k ih =>
    have hnext := hat.next_shown h (by omega)
    obtain ⟨hrun, hend⟩ := ih hnext.position (by omega)
    rw [List.range'_succ, List.replicate_succ, show i + (k + 1) = i + 1 + k by omega]
    exact ⟨.cons hnext hrun, hend⟩

theorem At.run_previous {k : Nat} (hat : At query found size k nav)
    (h : Served fetch query found size) :
    List.Forall₂ (Shown query found size) (List.range k).reverse (runWith fetch nav (back k)) ∧
      At query found size 0 (endWith fetch nav (back k)) := by
  induction k generalizing nav with
  | zero => exact ⟨.nil, hat⟩
  | succ k ih =>
    have hprevious := hat.previous_shown h
    obtain ⟨hrun, hend⟩ := ih hprevious.position
    rw [List.range_succ, List.reverse_append, back, List.replicate_succ]
    exact ⟨.cons hprevious hrun, hend⟩

theorem Shown.content_eq {s : Navigator × List Ticket} (h : Shown query found size i s) :
    s.1.content = ResultPage.slice found i size.toNat := by
  obtain ⟨p, hp, rfl, hcut⟩ := h.position.cut
  simp only [Navigator.content, hp, hcut.content_eq]

theorem flatMap_content {is : List Nat} {run : List (Navigator × List Ticket)}
    (h : List.Forall₂ (Shown query found size) is run) :
    run.flatMap (fun s => s.1.content) =
      is.flatMap (fun i => ResultPage.slice found i size.toNat) := by
  induction h with
  | nil => rfl
  | cons hs _ ih => rw [List.flatMap_cons, List.flatMap_cons, ih, hs.content_eq]

theorem min_min_cap (size cap : UInt32) : min (min size cap) cap = min size cap := by
  rw [← UInt32.toNat_inj]
  simp only [UInt32.toNat_min]
  omega

theorem served_capped (nodes : List Node) (query : String) {size cap : UInt32} (hsize : 0 < size)
    (hcap : 0 < cap)
    (hcount : (nodesMatching nodes query).length ⌈/⌉ (min size cap).toNat ≤ maxWord32) :
    Served (fetchCapped nodes cap) query (nodesMatching nodes query) (min size cap) where
  size_pos := by
    rw [UInt32.lt_iff_toNat_lt] at hsize hcap ⊢
    rw [UInt32.toNat_min]
    exact lt_min hsize hcap
  count_le := hcount
  answer := by
    intro ticket hquery hticket
    simp only [fetchCapped, fetchFrom, hquery, hticket, min_min_cap]

theorem load_shown (nodes : List Node) (nav : Navigator) (query : String) {size cap : UInt32}
    (h : Served (fetchCapped nodes cap) query (nodesMatching nodes query) (min size cap)) :
    Shown query (nodesMatching nodes query) (min size cap) 0
      (stepWith (fetchCapped nodes cap) (nav.setQuery query) (.load 0 size)) := by
  obtain ⟨p, hp⟩ := ResultPage.exists_ofList h.size_pos h.count_le 0
  change Shown query (nodesMatching nodes query) (min size cap) (0 : UInt32).toNat _
  exact shown_of_answer rfl rfl hp hp

/-- Whoever loads the first page and goes on to the end sees all nodes that match in their order, and
sees the same pages again on the way back. Each move makes one load, and at both ends there is none. -/
theorem paging_shows_all (nodes : List Node) (query : String) (nav : Navigator) {size cap : UInt32}
    (hsize : 0 < size) (hcap : 0 < cap)
    (hcount : (nodesMatching nodes query).length ⌈/⌉ (min size cap).toNat ≤ 2 ^ 32 - 1) :
    let found := nodesMatching nodes query
    let used := min size cap
    let count := max (found.length ⌈/⌉ used.toNat) 1
    let fetch := fetchCapped nodes cap
    let start := nav.setQuery query
    let last := endWith fetch start (forth size (count - 1))
    let first := endWith fetch last (back (count - 1))
    List.Forall₂ (Shown query found used) (List.range count)
      (runWith fetch start (forth size (count - 1))) ∧
    (runWith fetch start (forth size (count - 1))).flatMap (fun s => s.1.content) = found ∧
    stepWith fetch last .next = (last, []) ∧
    List.Forall₂ (Shown query found used) (List.range (count - 1)).reverse
      (runWith fetch last (back (count - 1))) ∧
    stepWith fetch first .previous = (first, []) := by
  intro found used count fetch start last first
  have hserved : Served fetch query found used := served_capped nodes query hsize hcap hcount
  have hload : Shown query found used 0 (stepWith fetch start (.load 0 size)) :=
    load_shown nodes nav query hserved
  have hpos : 0 < count := by omega
  obtain ⟨hnext, hlast⟩ := hload.position.run_next hserved (k := count - 1) (by omega)
  have hforth : List.Forall₂ (Shown query found used) (List.range count)
      (runWith fetch start (forth size (count - 1))) := by
    rw [← Nat.sub_add_cancel hpos, List.range_eq_range', List.range'_succ]
    exact .cons hload hnext
  rw [Nat.zero_add] at hlast
  obtain ⟨hback, hfirst⟩ := hlast.run_previous hserved
  refine ⟨hforth, ?_, hlast.next_idle (by omega), hback, hfirst.previous_idle⟩
  have hall : found.length ≤ count * used.toNat := by
    rw [Nat.mul_comm, ← ceilDiv_le_iff_le_mul hserved.size_pos]
    exact le_max_left _ _
  rw [flatMap_content hforth, ResultPage.flatMap_slice, List.take_of_length_le hall]

def fourNodes : List Node := [{ name := "ab" }, { name := "c" }, { name := "b" }, { name := "bc" }]

theorem paging_shows_all_fourNodes :
    (0 : UInt32) < 5 ∧ (0 : UInt32) < 2 ∧
    (nodesMatching fourNodes "b").length ⌈/⌉ (min 5 2 : UInt32).toNat ≤ 2 ^ 32 - 1 ∧
    (runWith (fetchCapped fourNodes 2) (Navigator.new.setQuery "b") [.load 0 5, .next]).flatMap
      (fun s => s.1.content) = [{ name := "ab" }, { name := "b" }, { name := "bc" }] := by
  have hfound : nodesMatching fourNodes "b" =
      [{ name := "ab" }, { name := "b" }, { name := "bc" }] := by rfl
  have hcount : (nodesMatching fourNodes "b").length ⌈/⌉ (min 5 2 : UInt32).toNat = 2 := by
    rw [hfound]
    rfl
  have hsmall : (nodesMatching fourNodes "b").length ⌈/⌉ (min 5 2 : UInt32).toNat ≤ 2 ^ 32 - 1 := by
    rw [hcount]
    decide
  have hrun := (paging_shows_all fourNodes "b" .new (by decide) (by decide) hsmall).2.1
  rw [hcount, hfound] at hrun
  exact ⟨by decide, by decide, hsmall, hrun⟩

end GraphBrowser.Listing
