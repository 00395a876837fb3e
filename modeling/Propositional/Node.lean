import Propositional.Connective
import Propositional.Name

/-!
# Nodes of formula trees

A formula tree alternates between two categories of nodes. A simple node is an identifier or a
group, that is, a proposition in parentheses; a proposition is a bare simple term, a negated one, or
two of them joined by a connective. The category is an index of the type, so no tree breaks this
rule.

A tree may also hold foreign objects in place of simple terms, so that it can be said what a
traversal does when it meets one. `Node Empty c` has none: it is the tree of a formula.

Main statement: a node is as large as its children and itself (`AnyNode.size_of_children?`), which
is why the traversals that keep a stack of pending nodes come to an end.
-/

namespace Propositional

/-- The two categories of nodes. -/
inductive Category where
  | simple
  | proposition
  deriving DecidableEq

/-- A node of a formula tree of a given category, with foreign objects from `α`. -/
inductive Node (α : Type) : Category → Type where
  | identifier (name : Name) : Node α .simple
  | group (body : Node α .proposition) : Node α .simple
  | foreign (object : α) : Node α .simple
  | bare (term : Node α .simple) : Node α .proposition
  | negation (operand : Node α .simple) : Node α .proposition
  | compound (op : Connective) (left right : Node α .simple) : Node α .proposition
  deriving DecidableEq

/-- A node of either category. -/
structure AnyNode (α : Type) where
  category : Category
  node : Node α category
  deriving DecidableEq

/-- A simple term of a formula. -/
abbrev Term := Node Empty .simple

/-- The tree of a formula. -/
abbrev Formula := Node Empty .proposition

namespace Node

variable {α β : Type} {c : Category}

/-- The node without its category in the type. -/
def any (t : Node α c) : AnyNode α := ⟨c, t⟩

/-- The children of a node from left to right. A foreign object has none to show. -/
def children? : Node α c → Except α (List (AnyNode α))
  | .identifier _ => .ok []
  | .group body => .ok [body.any]
  | .foreign e => .error e
  | .bare term => .ok [term.any]
  | .negation operand => .ok [operand.any]
  | .compound _ left right => .ok [left.any, right.any]

/-- The number of nodes of a tree, foreign objects counted as one each. -/
def size : {c : Category} → Node α c → Nat
  | _, .identifier _ => 1
  | _, .group body => body.size + 1
  | _, .foreign _ => 1
  | _, .bare term => term.size + 1
  | _, .negation operand => operand.size + 1
  | _, .compound _ left right => left.size + right.size + 1

/-- The tree with each foreign object replaced. -/
def map (f : α → β) : {c : Category} → Node α c → Node β c
  | _, .identifier n => .identifier n
  | _, .group body => .group (body.map f)
  | _, .foreign e => .foreign (f e)
  | _, .bare term => .bare (term.map f)
  | _, .negation operand => .negation (operand.map f)
  | _, .compound op left right => .compound op (left.map f) (right.map f)

/-- The tree of a formula among the trees that may hold foreign objects. -/
def embed (t : Node Empty c) : Node α c := t.map Empty.elim

end Node

namespace AnyNode

variable {α : Type}

def size (t : AnyNode α) : Nat := t.node.size

/-- The number of nodes of several trees. -/
def totalSize : List (AnyNode α) → Nat
  | [] => 0
  | t :: ts => t.size + totalSize ts

theorem totalSize_append (ts us : List (AnyNode α)) :
    totalSize (ts ++ us) = totalSize ts + totalSize us := by
  induction ts with
  | nil => simp [totalSize]
  | cons t ts ih => simp [totalSize, ih, Nat.add_assoc]

/-- A node that shows its children is larger than them by one. -/
theorem size_of_children? {t : AnyNode α} {ts : List (AnyNode α)} (h : t.node.children? = .ok ts) :
    t.size = totalSize ts + 1 := by
  obtain ⟨c, t⟩ := t
  cases t <;> cases h <;> simp [size, totalSize, Node.size, Node.any]

end AnyNode

end Propositional
