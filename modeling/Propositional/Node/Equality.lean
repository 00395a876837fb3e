import Propositional.Node

/-!
# Equality of nodes

Each node decides for its own shape whether another node equals it: it compares what it holds and
puts its children to those of the other node. On a node of another shape it has no answer, and then
the other node is asked. Two nodes are different if neither of them answers.

Main statement: two nodes are equal exactly if they are the same tree (`Node.equals_eq`).
-/

namespace Propositional.Node

variable {α : Type} [DecidableEq α]

/-- What comes of two answers: the first one, or else the second, and without both of them no. -/
def settled (first second : Option Bool) : Bool := (first <|> second).getD false

/-- The answer of a node on whether another node equals it. On a node of another shape it has
none. -/
def answer? : {c d : Category} → Node α c → Node α d → Option Bool
  | _, _, .identifier n, .identifier m => some (n.text = m.text)
  | _, _, .group body, .group other => some (settled (body.answer? other) (other.answer? body))
  | _, _, .foreign e, .foreign e' => some (e = e')
  | _, _, .bare term, .bare other => some (settled (term.answer? other) (other.answer? term))
  | _, _, .negation operand, .negation other =>
    some (settled (operand.answer? other) (other.answer? operand))
  | _, _, .compound op left right, .compound op' left' right' =>
    some (op = op' && settled (left.answer? left') (left'.answer? left) &&
      settled (right.answer? right') (right'.answer? right))
  | _, _, _, _ => none
termination_by _ _ t u => t.size + u.size
decreasing_by all_goals simp only [size]; omega

/-- Two nodes are equal if the first one answers so, or the second one where the first has no
answer. Trees of any depth are compared: the limit of an interpreter on nested calls is set
aside. -/
def equals {c d : Category} (t : Node α c) (u : Node α d) : Bool :=
  settled (t.answer? u) (u.answer? t)

/-! ## Nodes of one shape -/

theorem equals_identifier (n m : Name) :
    (identifier n : Node α _).equals (identifier m : Node α _) = decide (n = m) := by
  rw [equals, answer?]
  exact decide_eq_decide.2 Name.text_inj

theorem equals_group (body other : Node α .proposition) :
    (group body).equals (group other) = body.equals other := by
  rw [equals, answer?]
  rfl

theorem equals_foreign (e e' : α) : (foreign e).equals (foreign e') = decide (e = e') := by
  rw [equals, answer?]
  rfl

theorem equals_bare (term other : Node α .simple) :
    (bare term).equals (bare other) = term.equals other := by
  rw [equals, answer?]
  rfl

theorem equals_negation (operand other : Node α .simple) :
    (negation operand).equals (negation other) = operand.equals other := by
  rw [equals, answer?]
  rfl

theorem equals_compound (op op' : Connective) (left right left' right' : Node α .simple) :
    (compound op left right).equals (compound op' left' right') =
      (decide (op = op') && left.equals left' && right.equals right') := by
  rw [equals, answer?]
  rfl

/-- Two nodes are equal exactly if they are the same tree. -/
theorem equals_eq : {c d : Category} → (t : Node α c) → (u : Node α d) →
    t.equals u = decide (t.any = u.any)
  | _, _, .identifier n, u => by
    cases u with
    | identifier m => simp [equals_identifier, any]
    | _ => simp [equals, answer?, settled, any]
  | _, _, .group body, u => by
    cases u with
    | group other =>
      rw [equals_group, body.equals_eq other]
      simp [any]
    | _ => simp [equals, answer?, settled, any]
  | _, _, .foreign e, u => by
    cases u with
    | foreign e' => simp [equals_foreign, any]
    | _ => simp [equals, answer?, settled, any]
  | _, _, .bare term, u => by
    cases u with
    | bare other =>
      rw [equals_bare, term.equals_eq other]
      simp [any]
    | _ => simp [equals, answer?, settled, any]
  | _, _, .negation operand, u => by
    cases u with
    | negation other =>
      rw [equals_negation, operand.equals_eq other]
      simp [any]
    | _ => simp [equals, answer?, settled, any]
  | _, _, .compound op left right, u => by
    cases u with
    | compound op' left' right' =>
      rw [equals_compound, left.equals_eq left', right.equals_eq right']
      simp [any, Bool.and_assoc]
    | _ => simp [equals, answer?, settled, any]

end Propositional.Node
