import Propositional.Proofs.Addresses
import Propositional.Proofs.Rejection
import Propositional.Proofs.Statistics

/-!
# The operands on the stack of texts

The rendering of a tree never lacks an operand: when its run comes to a node, the texts of the
children of this node are on top of the stack, the last one first, and the node puts its own text in
their place (`render_finds_operands`).

1. `AnyNode.renderStep_texts` is the step: with these texts on top, a node of any shape goes on like
   this. A bare term has the text of its child, which is why it may leave the stack alone.
2. `AnyNode.exists_front_of_postorder`: right before a node, the post-order has its children with
   all below them.
3. `AnyNode.run_children`: these have put the texts there.
-/

namespace Propositional

namespace AnyNode

/-- The texts of trees as they stand on a stack, that of the last tree on top. -/
def texts (ts : List (AnyNode Empty)) : List Text := (ts.map fun t => t.node.text).reverse

/-- A node that finds the texts of its children on the stack puts its own in their place. -/
theorem renderStep_texts (t : AnyNode Empty) (rest : List Text) :
    Node.renderStep (texts t.children ++ rest) t = .ok (t.node.text :: rest) := by
  obtain ⟨c, t⟩ := t
  cases t with
  | foreign e => exact e.elim
  | _ => rfl

/-! ## Runs -/

theorem run_postorder (t : AnyNode Empty) (stack : List Text) :
    t.node.postorder.foldlM Node.renderStep stack = .ok (t.node.text :: stack) := by
  rw [Node.render_run, Node.unlessForeign_foreigners, Node.spelled_eq_text]

theorem run_children (ts : List (AnyNode Empty)) (stack : List Text) :
    (ts.flatMap fun u => u.node.postorder).foldlM Node.renderStep stack =
      .ok (texts ts ++ stack) := by
  induction ts generalizing stack with
  | nil => rfl
  | cons t ts ih =>
    rw [List.flatMap_cons, List.foldlM_append, t.run_postorder]
    show List.foldlM Node.renderStep (t.node.text :: stack) _ = _
    rw [ih]
    simp [texts]

/-! ## What is in front of a node -/

/-- A node listed in the orders of several trees is listed in one of them, and so has its children
with all below them right before it, if that is so in each. -/
theorem exists_front_of_flatMap {ts : List (AnyNode Empty)} {b : AnyNode Empty}
    {before after : List (AnyNode Empty)}
    (ht : ∀ t ∈ ts, ∀ before after, t.node.postorder = before ++ b :: after →
      ∃ front, before = front ++ b.children.flatMap fun u => u.node.postorder)
    (h : (ts.flatMap fun u => u.node.postorder) = before ++ b :: after) :
    ∃ front, before = front ++ b.children.flatMap fun u => u.node.postorder := by
  induction ts generalizing before with
  | nil => simp at h
  | cons t ts ih =>
    obtain ⟨hfirst, hmore⟩ := List.forall_mem_cons.1 ht
    have hbehind : ∀ before', before = t.node.postorder ++ before' →
        (ts.flatMap fun u => u.node.postorder) = before' ++ b :: after →
        ∃ front, before = front ++ b.children.flatMap fun u => u.node.postorder := by
      intro before' hbefore hrest
      obtain ⟨front, hfront⟩ := ih hmore hrest
      exact ⟨t.node.postorder ++ front, by rw [hbefore, hfront, List.append_assoc]⟩
    rw [List.flatMap_cons, List.append_eq_append_iff] at h
    obtain ⟨before', hbefore, hrest⟩ | ⟨back, hback, hafter⟩ := h
    · exact hbehind before' hbefore hrest
    · rcases back with _ | ⟨e, back⟩
      · rw [List.append_nil] at hback
        exact hbehind [] (by rw [hback, List.append_nil]) hafter.symm
      · obtain ⟨rfl, -⟩ := List.cons.inj hafter
        exact hfirst before back hback

/-- Right before a node, the post-order has the children of the node with all below them. -/
theorem exists_front_of_postorder (t : AnyNode Empty) {b : AnyNode Empty}
    {before after : List (AnyNode Empty)} (h : t.node.postorder = before ++ b :: after) :
    ∃ front, before = front ++ b.children.flatMap fun u => u.node.postorder := by
  induction t using induction_on_children generalizing before after with
  | step t ih =>
    rw [postorder_eq] at h
    obtain rfl | ⟨after', x, rfl⟩ := List.eq_nil_or_concat' after
    · obtain ⟨hbefore, hroot⟩ := List.append_inj' h rfl
      obtain ⟨rfl, -⟩ := List.cons.inj hroot
      exact ⟨[], hbefore.symm⟩
    · rw [← List.cons_append, ← List.append_assoc] at h
      exact exists_front_of_flatMap (fun u hu _ _ => ih u hu) (List.append_inj' h rfl).1

end AnyNode

/-! ## Rendering -/

/-- The canonical text of the tree of a formula is its text by recursion, also where a node is shown
as a value. The run that writes it ends with this text alone on the stack, and whenever it comes to
a node, the texts of the children are on top of the stack and the text of the node takes their
place. -/
theorem render_finds_operands (t : AnyNode Empty) :
    t.node.render = .ok t.node.text ∧
    (Value.node t.node.embed.any).shown = .ok t.node.text ∧
    t.node.bottomUp.items.foldlM Node.renderStep [] = .ok [t.node.text] ∧
    ∀ before node after, t.node.bottomUp.items = before ++ node :: after → ∃ rest,
      before.foldlM Node.renderStep [] = .ok (AnyNode.texts node.children ++ rest) ∧
      (before ++ [node]).foldlM Node.renderStep [] = .ok (node.node.text :: rest) := by
  have hrun := t.run_postorder []
  rw [Node.bottomUp_of_foreigners t.node.foreigners_eq_nil]
  refine ⟨t.node.render_eq, ?_, hrun, ?_⟩
  · show (t.node.embed.map Foreign.stray).render = _
    rw [Node.render_eq_spelled, Node.foreigners_map, Node.spelled_map, Node.embed,
      Node.foreigners_map, Node.spelled_map, Node.foreigners_eq_nil, Node.spelled_eq_text]
    rfl
  · intro before node after hsplit
    change t.node.postorder = _ at hsplit
    obtain ⟨front, rfl⟩ := t.exists_front_of_postorder hsplit
    -- The run has come through the nodes in front, since it comes through all of them.
    obtain ⟨rest, hrest⟩ : ∃ rest, front.foldlM Node.renderStep [] = .ok rest := by
      rw [hsplit, List.append_assoc, List.foldlM_append] at hrun
      cases hfront : front.foldlM Node.renderStep [] with
      | ok rest => exact ⟨rest, rfl⟩
      | error f =>
        rw [hfront] at hrun
        cases hrun
    have hchildren : (front ++ node.children.flatMap fun u => u.node.postorder).foldlM
        Node.renderStep [] = .ok (AnyNode.texts node.children ++ rest) := by
      rw [List.foldlM_append, hrest]
      exact AnyNode.run_children node.children rest
    refine ⟨rest, hchildren, ?_⟩
    rw [List.foldlM_append, hchildren]
    show List.foldlM Node.renderStep _ [node] = _
    rw [List.foldlM_cons, node.renderStep_texts]
    rfl

/-- When the rendering of `(b&a)>b` comes to the connective in the group, its operands are on the
stack, the right one on top, and what is there afterwards is the text in the group. -/
theorem render_leftGroup :
    Formula.leftGroup.render = .ok "(b&a)>b".toList ∧ ∃ rest,
      (Formula.leftGroup.postorder.take 2).foldlM Node.renderStep [] =
        .ok ("a".toList :: "b".toList :: rest) ∧
      (Formula.leftGroup.postorder.take 3).foldlM Node.renderStep [] =
        .ok ("b&a".toList :: rest) := by
  obtain ⟨hrender, -, -, hfinds⟩ := render_finds_operands Formula.leftGroup.any
  have hsplit : Formula.leftGroup.any.node.bottomUp.items = Formula.leftGroup.postorder.take 2 ++
      Formula.leftGroup.postorder[2] :: Formula.leftGroup.postorder.drop 3 := by
    show Formula.leftGroup.bottomUp.items = _
    rw [Node.bottomUp_of_foreigners rfl]
    rfl
  obtain ⟨rest, hbefore, hafter⟩ := hfinds _ _ _ hsplit
  exact ⟨hrender, rest, hbefore, hafter⟩

end Propositional
