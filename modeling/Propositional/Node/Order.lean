import Propositional.Node

/-!
# Orders of the nodes of a tree

The orders in which a tree can be listed, and its measures, by recursion on the tree: what the
traversals with a stack of pending nodes deliver is said in these terms. A foreign object is listed
as a node without children.
-/

namespace Propositional.Node

variable {α : Type}

/-- The nodes of a tree with their depths, each before its children. -/
def preorder (depth : Nat) : {c : Category} → Node α c → List (AnyNode α × Nat)
  | _, .identifier n => [((Node.identifier n).any, depth)]
  | _, .group body => ((Node.group body).any, depth) :: body.preorder (depth + 1)
  | _, .foreign e => [((Node.foreign e).any, depth)]
  | _, .bare term => ((Node.bare term).any, depth) :: term.preorder (depth + 1)
  | _, .negation operand => ((Node.negation operand).any, depth) :: operand.preorder (depth + 1)
  | _, .compound op left right =>
    ((Node.compound op left right).any, depth) ::
      (left.preorder (depth + 1) ++ right.preorder (depth + 1))

/-- The nodes of a tree, each after its children. -/
def postorder : {c : Category} → Node α c → List (AnyNode α)
  | _, .identifier n => [(Node.identifier n).any]
  | _, .group body => body.postorder ++ [(Node.group body).any]
  | _, .foreign e => [(Node.foreign e).any]
  | _, .bare term => term.postorder ++ [(Node.bare term).any]
  | _, .negation operand => operand.postorder ++ [(Node.negation operand).any]
  | _, .compound op left right =>
    left.postorder ++ right.postorder ++ [(Node.compound op left right).any]

/-- The distance from the root to the deepest node. -/
def height : {c : Category} → Node α c → Nat
  | _, .identifier _ => 0
  | _, .group body => body.height + 1
  | _, .foreign _ => 0
  | _, .bare term => term.height + 1
  | _, .negation operand => operand.height + 1
  | _, .compound _ left right => max left.height right.height + 1

/-- The greatest number of groups within one another. -/
def nesting : {c : Category} → Node α c → Nat
  | _, .identifier _ => 0
  | _, .group body => body.nesting + 1
  | _, .foreign _ => 0
  | _, .bare term => term.nesting
  | _, .negation operand => operand.nesting
  | _, .compound _ left right => max left.nesting right.nesting

/-- The text of a tree of a formula, without blanks. -/
def text : {c : Category} → Node Empty c → Text
  | _, .identifier n => n.text
  | _, .group body => '(' :: body.text ++ [')']
  | _, .bare term => term.text
  | _, .negation operand => '!' :: operand.text
  | _, .compound op left right => left.text ++ op.symbol :: right.text

end Propositional.Node
