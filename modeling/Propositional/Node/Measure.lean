import Propositional.Node.Walk
import Propositional.Text.Order

/-!
# Measures of a tree

The number of nodes, the depth and the identifiers of a tree, and its orderly release, each read off
a traversal. A measure of a tree with a foreign object is the failure of the traversal; a `Fault`
also provides for a traversal that visits nothing and for a text that lacks an operand, so that it
can be said that neither ever happens.
-/

namespace Propositional

/-- What a measure or a rendering of a tree may fail with. -/
inductive Fault (α : Type) where
  | foreign (object : α)
  | missingOperand
  | nothingVisited
  deriving DecidableEq

namespace Node

variable {α σ : Type} {c : Category}

/-- A value computed from all that a traversal delivers. -/
def gather {β γ : Type} (d : Delivery α β) (f : List β → Except (Fault α) γ) :
    Except (Fault α) γ :=
  match d.failure with
  | none => f d.items
  | some e => .error (.foreign e)

def count (root : Node α c) : Except (Fault α) Nat :=
  gather root.walk fun visits => .ok visits.length

/-- The depth of the deepest node; the root has depth zero. -/
def depth (root : Node α c) : Except (Fault α) Nat :=
  gather root.walk fun visits =>
    match (visits.map Prod.snd).max? with
    | some d => .ok d
    | none => .error .nothingVisited

/-- The name of a node that is an identifier. -/
def name? : Node α c → Option Text
  | .identifier n => some n.text
  | _ => none

/-- The names of all identifiers of a tree in increasing order, each once. -/
def identifiers (root : Node α c) : Except (Fault α) (List Text) :=
  gather root.walk fun visits => .ok (Text.sortDistinct (visits.filterMap fun v => v.1.node.name?))

/-- Releases the nodes of a tree, each after its children. The result is the state that the releases
leave, and the number of nodes unless a foreign object was met on the way. -/
def teardown (release : σ → AnyNode α → σ) (start : σ) (root : Node α c) :
    σ × Except (Fault α) Nat :=
  (root.bottomUp.items.foldl release start,
    gather root.bottomUp fun nodes => .ok nodes.length)

end Node

end Propositional
