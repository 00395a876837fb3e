import Propositional.Node.Measure

/-!
# The outline of a tree

A tree as indented lines, one a node, each before its children, with a tab for each level of depth.
-/

namespace Propositional.Node

variable {α : Type} {c : Category}

/-- The line of a node without its indentation: its category and its form. A foreign object has no
form to show. -/
def label : Node α c → Except α Text
  | .identifier n => .ok ("S: ID ".toList ++ n.text)
  | .group _ => .ok "S: ( P )".toList
  | .foreign e => .error e
  | .bare _ => .ok "P: S".toList
  | .negation _ => .ok "P: ¬S".toList
  | .compound op _ _ => .ok ("P: S_left ".toList ++ op.sign :: " S_right".toList)

/-- The line of a node at a depth, with its end. -/
def outlineLine (visit : AnyNode α × Nat) : Except (Fault α) Text :=
  match visit.1.node.label with
  | .ok label => .ok (List.replicate visit.2 '\t' ++ label ++ ['\n'])
  | .error e => .error (.foreign e)

def outline (root : Node α c) : Except (Fault α) Text :=
  gather root.walk fun visits => (visits.mapM outlineLine).map List.flatten

end Propositional.Node
