import GraphBrowser.Graph.Wire
import GraphBrowser.Proofs.Graph.Layout
import GraphBrowser.Proofs.Json.Compact

namespace GraphBrowser

open Json

theorem Properties.compact (p : Properties) (h : ExactMembers p.entries) :
    Compact p.writing p.value :=
  compact_object (compact_members p.entries h)

namespace Dependency

mutual

theorem compact : (d : Dependency) → d.Exact → Compact d.writing d.value
  | ⟨source, target, type, properties, bases⟩, h => by
    have hbases := compact_list (compactAll bases h.2)
    exact compact_record (by simp [slots, slotsWith]) <|
      .cons ⟨rfl, compact_string source⟩ <|
      .cons ⟨rfl, compact_string target⟩ <|
      .cons ⟨rfl, compact_string type⟩ <|
      .cons ⟨rfl, properties.compact h.1⟩ <|
      .cons ⟨rfl, hbases⟩ .nil

theorem compactAll : (ds : List Dependency) → ExactAll ds →
    List.Forall₂ Compact (writings ds) (values ds)
  | [], _ => .nil
  | d :: ds, h => .cons (compact d h.1) (compactAll ds h.2)

end

theorem compact_all (ds : List Dependency) (h : ExactAll ds) :
    Compact (.list (writings ds)) (.array (ds.map value)) := by
  rw [← values_eq_map]
  exact compact_list (compactAll ds h)

end Dependency

theorem Node.compact (n : Node) (h : n.Exact) : Compact n.writing n.value :=
  compact_record (by simp [slots, slotsWith]) <|
    .cons ⟨rfl, compact_string n.name⟩ <|
    .cons ⟨rfl, n.properties.compact h.properties⟩ <|
    .cons ⟨rfl, Dependency.compact_all n.parents h.parents⟩ <|
    .cons ⟨rfl, Dependency.compact_all n.incoming h.incoming⟩ <|
    .cons ⟨rfl, Dependency.compact_all n.outgoing h.outgoing⟩ <|
    .cons ⟨rfl, Dependency.compact_all n.contained h.contained⟩ .nil

theorem GraphInfo.compact (g : GraphInfo) : Compact g.writing g.value :=
  compact_record (by simp [slots]) (.cons ⟨rfl, compact_string g.info⟩ .nil)

end GraphBrowser
