import GraphBrowser.Proofs.Client.Outcome
import GraphBrowser.Proofs.Graph.Building
import GraphBrowser.Proofs.Page.Decoding

namespace GraphBrowser

open Json

namespace Client

variable {client : Client} {send : Request → Reply} {request : Request} {name : String} {n : Node}

theorem decode_written (hexact : n.Exact) (hnesting : n.value.nesting ≤ 127) :
    decode (Reply.bodyText (Text.utf8Bytes n.value.print)) (.node name) = .ok n := by
  have hparse : Node.parse n.value.text = .ok n :=
    (Node.parse_layout hexact (n.compact hexact).text).trans (if_pos hnesting)
  rw [Reply.bodyText_print, decode, hparse]
  rfl

theorem asked_written (hexact : n.Exact) (hnesting : n.value.nesting ≤ 127)
    (hsent : (client.asked send (.node name)).2 = [request])
    (hreply : send request = .response 200 (Text.utf8Bytes n.value.print)) :
    (client.asked send (.node name)).1 =
      ⟨.ok n, [request], .get :: List.replicate n.violations.length .strayDependency⟩ := by
  rw [asked_of_sent hsent, hreply, conclude_answered (by decide) (decode_written hexact hnesting),
    remarks, List.map_const']

end Client

namespace Node

/-- What the steps of each part give is what the node holds, and its violations are those dependencies
of the steps that do not touch it at their own end. A client that is answered with the node reports as
many. -/
theorem parts_of_steps (name : String) (steps : List Step) :
    let n := assembled name steps
    n.name = name ∧
    (∀ r, n.related r = addedOf r steps) ∧
    n.properties.keys = ((entriesOf steps).map Prod.fst).eraseDups ∧
    (∀ key, n.properties.get? key = lastValue? key (entriesOf steps)) ∧
    n.violations =
      (((addedOf .parent steps).filter fun d => d.target ≠ name).map fun d => (.parent, d)) ++
      (((addedOf .incoming steps).filter fun d => d.target ≠ name).map fun d => (.incoming, d)) ++
      (((addedOf .outgoing steps).filter fun d => d.source ≠ name).map fun d => (.outgoing, d)) ++
      (((addedOf .contained steps).filter fun d => d.source ≠ name).map fun d => (.contained, d)) ∧
    (∀ steps', entriesOf steps' = entriesOf steps → (∀ r, addedOf r steps' = addedOf r steps) →
      assembled name steps' = n ∧ (assembled name steps').violations = n.violations ∧
      (assembled name steps').value.text = n.value.text) ∧
    (n.Exact → n.value.nesting ≤ 127 →
      ∀ (client : Client) (send : Request → Reply) (request : Request) (asked : String),
      (client.asked send (.node asked)).2 = [request] →
      send request = .response 200 (Text.utf8Bytes n.value.print) →
      (client.asked send (.node asked)).1.result = .ok n ∧
      (client.asked send (.node asked)).1.events =
        .get :: List.replicate n.violations.length .strayDependency) := by
  intro n
  have hname : n.name = name := name_assembled name steps
  have hrelated : ∀ r, n.related r = addedOf r steps := related_assembled name steps
  have hproperties : n.properties = .ofList (entriesOf steps) := properties_assembled name steps
  refine ⟨hname, hrelated, ?_, fun key => ?_, ?_, fun steps' hentries hadded => ?_, ?_⟩
  · rw [hproperties, Properties.keys_ofList]
  · rw [hproperties, Properties.get?_ofList]
  · rw [violations_eq, hname, ← hrelated, ← hrelated, ← hrelated, ← hrelated]
    rfl
  · have hsame : assembled name steps' = n := assembled_congr name hentries hadded
    rw [hsame]
    exact ⟨rfl, rfl, rfl⟩
  · intro hexact hnesting client send request asked hsent hreply
    rw [Client.asked_written hexact hnesting hsent hreply]
    exact ⟨rfl, rfl⟩

def strayBase : Dependency := ⟨"p", "q", "uses", .empty, []⟩

def strayChild : Dependency := ⟨"p", "p.C", "contains", .empty, []⟩

def straySteps : List Step :=
  [.relation .outgoing strayBase, .property "k" .null, .relation .parent strayChild,
    .relation .contained strayChild, .property "k" (.bool true)]

theorem parts_of_steps_stray :
    assembled "p.C" straySteps = assembled "p.C" (straySteps.drop 1 ++ straySteps.take 1) ∧
    (assembled "p.C" straySteps).violations = [(.outgoing, strayBase), (.contained, strayChild)] ∧
    ∃ client, Client.ofConfig ⟨Site.loopback.address, 30000, "depview/0.1.0"⟩ = .ok client ∧
      (client.asked (fun _ => .response 200 (Text.utf8Bytes (assembled "p.C" straySteps).value.print))
        (.node "p.C")).1.events = [.get, .strayDependency, .strayDependency] := by
  obtain ⟨-, -, -, -, hviolations, hsame, hreported⟩ := parts_of_steps "p.C" straySteps
  have hviolations : (assembled "p.C" straySteps).violations =
      [(.outgoing, strayBase), (.contained, strayChild)] := hviolations.trans rfl
  have hexact : (assembled "p.C" straySteps).Exact :=
    ⟨⟨trivial, trivial⟩, ⟨⟨trivial, trivial⟩, trivial⟩, trivial, ⟨⟨trivial, trivial⟩, trivial⟩,
      ⟨⟨trivial, trivial⟩, trivial⟩⟩
  refine ⟨?_, hviolations, _, Site.ofConfig_loopback, ?_⟩
  · exact (hsame _ rfl fun r => by cases r <;> rfl).1.symm
  · rw [hviolations] at hreported
    generalize hbody : Text.utf8Bytes (assembled "p.C" straySteps).value.print = body at hreported ⊢
    have hcall : ¬ (Call.node "p.C").LacksArgument := by simp [Call.LacksArgument]
    obtain ⟨request, hasked⟩ :=
      Site.asked_once Site.ofConfig_loopback (fun _ => .response 200 body) hcall (by decide +kernel)
    exact (hreported hexact (by decide +kernel) _ _ request "p.C" (congrArg Prod.snd hasked) rfl).2

end Node

end GraphBrowser
