import Propositional.Proofs.Measures
import Propositional.Proofs.Rendering
import Propositional.Value.View

/-!
# Traversals reject foreign objects alike

A tree may hold foreign objects in place of simple terms, and what is no node at all is one at the
root. All that goes through such a tree fails for the same object, the first one from left to right,
and nothing fails in any other way: no operand is missing when a tree is rendered, and no depth when
it is measured (`rejectsAlike`).

Until then a walk has delivered the nodes in front of the object in pre-order, and a traversal
bottom-up those in front of it in post-order. These need not be the same nodes: what is around the
object is delivered by a walk only.
-/

namespace Propositional

/-- How the traversals of a tree deal with the foreign objects in it. -/
structure RejectsAlike {α : Type} {c : Category} (t : Node α c) : Prop where
  /-- The foreign objects are those that are met in pre-order. -/
  met : (t.preorder 0).filterMap AnyNode.foreignVisit? = t.foreigners
  /-- In post-order the same ones are met. -/
  metBottomUp : t.postorder.filterMap AnyNode.foreign? = t.foreigners
  /-- A walk delivers the nodes with their depths in pre-order, up to a foreign object. -/
  walk : t.walk = ⟨(t.preorder 0).takeWhile fun v => v.1.foreign?.isNone, t.foreigners.head?⟩
  /-- A traversal bottom-up delivers the nodes in post-order, up to a foreign object. -/
  bottomUp : t.bottomUp = ⟨t.postorder.takeWhile fun u => u.foreign?.isNone, t.foreigners.head?⟩
  /-- The same nodes are released, and they are counted if all are. -/
  teardown : ∀ {σ : Type} (release : σ → AnyNode α → σ) (start : σ), t.teardown release start =
    ((t.postorder.takeWhile fun u => u.foreign?.isNone).foldl release start,
      unlessForeign t.foreigners t.size)
  /-- There is an outline unless there is a foreign object. -/
  outline : t.outline = unlessForeign t.foreigners (t.indented 0)
  /-- There is a number of nodes unless there is a foreign object. -/
  count : t.count = unlessForeign t.foreigners t.size
  /-- There is a depth unless there is a foreign object. -/
  depth : t.depth = unlessForeign t.foreigners t.height
  /-- There are names unless there is a foreign object. -/
  identifiers : t.identifiers = unlessForeign t.foreigners (Text.sortDistinct t.names)
  /-- There is a canonical text unless there is a foreign object. -/
  render : t.render = unlessForeign t.foreigners t.spelled

/-! ## Values as trees -/

section Replacing

variable {α β : Type} {c : Category} (f : α → β)

theorem Node.foreigners_map : {c : Category} → (t : Node α c) →
    (t.map f).foreigners = t.foreigners.map f
  | _, .identifier n => rfl
  | _, .group body => body.foreigners_map
  | _, .foreign e => rfl
  | _, .bare term => term.foreigners_map
  | _, .negation operand => operand.foreigners_map
  | _, .compound op left right => by
    rw [map, foreigners, foreigners, List.map_append, left.foreigners_map, right.foreigners_map]

theorem Node.spelled_map : {c : Category} → (t : Node α c) → (t.map f).spelled = t.spelled
  | _, .identifier n => rfl
  | _, .group body => by rw [map, spelled, spelled, body.spelled_map]
  | _, .foreign e => rfl
  | _, .bare term => term.spelled_map
  | _, .negation operand => by rw [map, spelled, spelled, operand.spelled_map]
  | _, .compound op left right => by
    rw [map, spelled, spelled, left.spelled_map, right.spelled_map]

end Replacing

/-! ## Rejection -/

/-- The traversals of any tree deal with its foreign objects alike. A value that is no node is a
foreign object at the root, and the foreign objects of a node are its strays; the text that a node
is shown by is rejected like the others. -/
theorem rejectsAlike :
    (∀ {α : Type} {c : Category} (t : Node α c), RejectsAlike t) ∧
    (∀ l : Literal, (Value.literal l).root.node.foreigners = [.literal l]) ∧
    ∀ t : AnyNode Stray,
      (Value.node t).root.node.foreigners = t.node.foreigners.map .stray ∧
      (Value.node t).shown = unlessForeign (t.node.foreigners.map .stray) t.node.spelled := by
  refine ⟨fun t => ?_, fun l => rfl, fun t => ⟨t.node.foreigners_map _, ?_⟩⟩
  · exact {
      met := t.filterMap_preorder 0
      metBottomUp := t.filterMap_postorder
      walk := by
        have hfailure := t.failure_walk
        rw [t.walk_eq_upTo] at hfailure ⊢
        rw [← hfailure]
        rfl
      bottomUp := by
        have hfailure := t.failure_bottomUp
        rw [t.bottomUp_eq_upTo] at hfailure ⊢
        rw [← hfailure]
        rfl
      teardown := fun release start => t.teardown_eq release start
      outline := t.outline_eq
      count := t.count_eq
      depth := t.depth_eq
      identifiers := t.identifiers_eq
      render := t.render_eq_spelled }
  · show (t.node.map Foreign.stray).render = _
    rw [Node.render_eq_spelled, Node.foreigners_map, Node.spelled_map]

end Propositional
