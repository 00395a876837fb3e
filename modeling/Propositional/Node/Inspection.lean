import Propositional.Node
import Propositional.Text.Quoted

/-!
# Inspecting a tree

`Node.inspect` writes a tree as the nested construction that makes it. The shape of a node is the
head of this construction.
-/

namespace Propositional

/-- The shapes of nodes. -/
inductive Shape where
  | identifier
  | group
  | bare
  | negation
  | compound
  deriving DecidableEq

def Shape.name : Shape → String
  | .identifier => "Identifier"
  | .group => "Nested"
  | .bare => "Leaf"
  | .negation => "Unary"
  | .compound => "Binary"

/-- The category of the nodes of a shape. -/
def Shape.category : Shape → Category
  | .identifier | .group => .simple
  | .bare | .negation | .compound => .proposition

/-- The name of a connective where it is an operand of a construction. -/
def Connective.qualifiedName (op : Connective) : String := "BinaryOp." ++ op.name

namespace Node

variable {α : Type}

/-- The shape of a node, or the foreign object in its place. -/
def shape {c : Category} : Node α c → Except α Shape
  | .identifier _ => .ok .identifier
  | .group _ => .ok .group
  | .foreign e => .error e
  | .bare _ => .ok .bare
  | .negation _ => .ok .negation
  | .compound _ _ _ => .ok .compound

/-- What tells a node from others of its shape, besides its children: the name of an identifier, or
the name of a connective. -/
def detail? {c : Category} : Node α c → Option Text
  | .identifier n => some n.text
  | .compound op _ _ => some op.name.toList
  | _ => none

/-- A construction: its head and its operands in parentheses. -/
def construction (head : Shape) (operands : List Text) : Text :=
  head.name.toList ++ '(' :: [',', ' '].intercalate operands ++ [')']

/-- The construction that makes a tree, where foreign objects are written by a given function. Trees
of any depth are written: the limit of an interpreter on nested calls is set aside. -/
def inspect (foreign : α → Text) : {c : Category} → Node α c → Text
  | _, .identifier n => construction .identifier [n.text.quoted]
  | _, .group body => construction .group [body.inspect foreign]
  | _, .foreign e => foreign e
  | _, .bare term => construction .bare [term.inspect foreign]
  | _, .negation operand => construction .negation [operand.inspect foreign]
  | _, .compound op left right =>
    construction .compound
      [op.qualifiedName.toList, left.inspect foreign, right.inspect foreign]

end Node

end Propositional
