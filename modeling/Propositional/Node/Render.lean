import Propositional.Node.Measure

/-!
# The canonical text of a tree

`Node.render` writes a tree without blanks. It goes through the nodes bottom-up and keeps a stack of
the texts that are not yet part of a larger one: each node takes the texts of its children off the
stack and puts its own text there. A bare term leaves the stack as it is.
-/

namespace Propositional.Node

variable {α : Type} {c : Category}

/-- The stack of texts after a node whose children's texts are on top of it, the last one first. -/
def renderStep : List Text → AnyNode α → Except (Fault α) (List Text)
  | stack, ⟨_, .identifier n⟩ => .ok (n.text :: stack)
  | s :: rest, ⟨_, .group _⟩ => .ok (('(' :: s ++ [')']) :: rest)
  | stack, ⟨_, .bare _⟩ => .ok stack
  | s :: rest, ⟨_, .negation _⟩ => .ok (('!' :: s) :: rest)
  | right :: left :: rest, ⟨_, .compound op _ _⟩ => .ok ((left ++ op.symbol :: right) :: rest)
  | _, ⟨_, .foreign e⟩ => .error (.foreign e)
  | _, _ => .error .missingOperand

def render (root : Node α c) : Except (Fault α) Text := do
  let stack ← root.bottomUp.items.foldlM renderStep []
  match root.bottomUp.failure, stack with
  | some e, _ => .error (.foreign e)
  | none, s :: _ => .ok s
  | none, [] => .error .missingOperand

end Propositional.Node
