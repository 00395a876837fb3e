import Propositional.Node.Render
import Propositional.Proofs.Traversal

/-!
# What the rendering machine writes

`Node.render` is a stack of texts driven by a traversal that is itself a stack. `Node.spelled` is
the text of a tree by recursion.

1. `Node.render_run`: a run over the whole post-order of a tree puts the text of the tree on the
   stack and leaves the rest of it alone, or it fails for the first foreign object.
2. `foldlM_upTo`: a run that stops before the foreign object does not fail at all.

So no operand is ever missing: what is rendered is the text by recursion, unless the tree has a
foreign object (`Node.render_eq_spelled`). For the tree of a formula it is `Node.text`
(`Node.render_eq`).
-/

namespace Propositional

variable {α : Type}

/-- The text of a tree by recursion. A foreign object has no text. -/
def Node.spelled : {c : Category} → Node α c → Text
  | _, .identifier n => n.text
  | _, .group body => '(' :: body.spelled ++ [')']
  | _, .foreign _ => []
  | _, .bare term => term.spelled
  | _, .negation operand => '!' :: operand.spelled
  | _, .compound op left right => left.spelled ++ op.symbol :: right.spelled

/-! ## The stack of texts -/

/-- A run over the post-order of a tree puts the text of the tree on the stack, or fails for the
first foreign object. -/
theorem Node.render_run : {c : Category} → (t : Node α c) → (stack : List Text) →
    t.postorder.foldlM renderStep stack = unlessForeign t.foreigners (t.spelled :: stack)
  | _, .identifier n, stack => rfl
  | _, .group body, stack => by
    rw [postorder, List.foldlM_append, render_run body, foreigners]
    cases body.foreigners <;> rfl
  | _, .foreign e, stack => by
    rcases stack with _ | ⟨s, _ | ⟨r, rest⟩⟩ <;> rfl
  | _, .bare term, stack => by
    rw [postorder, List.foldlM_append, render_run term, foreigners]
    cases term.foreigners <;> rfl
  | _, .negation operand, stack => by
    rw [postorder, List.foldlM_append, render_run operand, foreigners]
    cases operand.foreigners <;> rfl
  | _, .compound op left right, stack => by
    rw [postorder, List.append_assoc, List.foldlM_append, render_run left, foreigners]
    cases left.foreigners with
    | cons e es => rfl
    | nil =>
      show (right.postorder ++ _).foldlM renderStep (left.spelled :: stack) = _
      rw [List.foldlM_append, render_run right]
      cases right.foreigners <;> rfl

theorem missingOperand_of_renderStep {stack : List Text} {b : AnyNode α} {f : Fault α}
    (hb : b.foreign? = none) (h : Node.renderStep stack b = .error f) : f = .missingOperand := by
  obtain ⟨c, t⟩ := b
  cases t with
  | foreign e => cases hb
  | _ => rcases stack with _ | ⟨s, _ | ⟨r, rest⟩⟩ <;> cases h <;> rfl

/-- Where no operand is missing, a run that stops before a foreign object does not fail. -/
theorem foldlM_upTo {bs : List (AnyNode α)} {stack : List Text}
    (h : bs.foldlM Node.renderStep stack ≠ .error .missingOperand) :
    ∃ out, (Delivery.upTo AnyNode.foreign? bs).items.foldlM Node.renderStep stack = .ok out := by
  induction bs generalizing stack with
  | nil => exact ⟨stack, rfl⟩
  | cons b bs ih =>
    cases hb : b.foreign? with
    | some e =>
      rw [Delivery.upTo_cons_of_some hb]
      exact ⟨stack, rfl⟩
    | none =>
      have hitems : (Delivery.upTo AnyNode.foreign? (b :: bs)).items =
          b :: (Delivery.upTo AnyNode.foreign? bs).items := by simp [Delivery.upTo, hb]
      rw [List.foldlM_cons] at h
      rw [hitems, List.foldlM_cons]
      cases hs : Node.renderStep stack b with
      | error f =>
        rw [hs, missingOperand_of_renderStep hb hs] at h
        exact absurd rfl h
      | ok next =>
        rw [hs] at h
        exact ih h

/-! ## Renderings -/

namespace Node

variable {c : Category}

theorem render_eq_spelled (t : Node α c) : t.render = unlessForeign t.foreigners t.spelled := by
  have hrun := t.render_run []
  have hfailure := t.failure_bottomUp
  unfold render
  cases h : t.foreigners with
  | nil =>
    rw [h] at hrun
    rw [bottomUp_of_foreigners h, hrun]
    rfl
  | cons e es =>
    rw [h] at hrun hfailure
    have hne : t.postorder.foldlM renderStep [] ≠ .error .missingOperand := by
      rw [hrun]
      rintro ⟨⟩
    obtain ⟨out, hout⟩ := foldlM_upTo hne
    rw [← bottomUp_eq_upTo] at hout
    rw [hout]
    simp only [bind, Except.bind, hfailure]
    rfl

theorem spelled_eq_text : {c : Category} → (t : Node Empty c) → t.spelled = t.text
  | _, .identifier n => rfl
  | _, .group body => by rw [spelled, text, spelled_eq_text body]
  | _, .bare term => spelled_eq_text term
  | _, .negation operand => congrArg ('!' :: ·) (spelled_eq_text operand)
  | _, .compound op left right => by
    rw [spelled, text, spelled_eq_text left, spelled_eq_text right]

theorem render_eq (t : Node Empty c) : t.render = .ok t.text := by
  rw [render_eq_spelled, foreigners_eq_nil, spelled_eq_text]
  rfl

end Node

end Propositional
