import Propositional.Node.Inspection

/-!
# Values

Nodes may be built from values of any kind, and only then is it checked whether these fit. A value
is a literal or a node; a node may hold strays, which are simple terms of an unknown shape.

1. `Value.typeName`, `Value.inspect` and `Value.isA` say what a value is.
2. `Value.root` is the value as a traversal meets it: what is no node is a foreign object.
3. `Value.key?` is what decides whether two values are equal. A list has no key.

Values are compared, hashed and written in reports whatever their size. The limits that an
interpreter sets to this, on nested calls and on the digits of integers, are set aside.
-/

namespace Propositional

/-- The sign of a connective in its inspected form. -/
def Connective.inspect (op : Connective) : Text :=
  '<' :: op.qualifiedName.toList ++ ": ".toList ++ Text.quoted [op.symbol] ++ ['>']

/-! ## Literals -/

/-- A value that is no node. -/
inductive Literal where
  | absent
  | truth (b : Bool)
  | integer (i : Int)
  | text (t : Text)
  | connective (op : Connective)
  | list (items : List Literal)

namespace Literal

/-- The name of the type of a literal. -/
def typeName : Literal → String
  | .absent => "NoneType"
  | .truth _ => "bool"
  | .integer _ => "int"
  | .text _ => "str"
  | .connective _ => "BinaryOp"
  | .list _ => "list"

mutual

/-- A literal as it is written in reports. -/
def inspect : Literal → Text
  | .absent => "None".toList
  | .truth b => (if b then "True" else "False").toList
  | .integer i => (toString i).toList
  | .text t => t.quoted
  | .connective op => op.inspect
  | .list items => '[' :: inspectItems items ++ [']']

/-- The items of a list as they are written in reports, with commas between them. -/
def inspectItems : List Literal → Text
  | [] => []
  | [item] => inspect item
  | item :: rest => inspect item ++ ',' :: ' ' :: inspectItems rest

end

/-- A literal as it is shown to a reader: a text without quotes, a connective by its name. -/
def shown : Literal → Text
  | .text t => t
  | .connective op => op.qualifiedName.toList
  | other => other.inspect

end Literal

/-! ## Values -/

/-- A simple term of unknown shape, told from others by a number. -/
structure Stray where
  id : Nat
  deriving DecidableEq, Hashable

/-- The name of the type of strays, and how they are inspected. -/
def Stray.typeName : String := "Stray"

/-- A stray as it is written in reports. -/
def Stray.inspect (_ : Stray) : Text := (Stray.typeName ++ "()").toList

/-- A value: a literal or a node. -/
inductive Value where
  | literal (v : Literal)
  | node (t : AnyNode Stray)

/-- What a traversal cannot go into: a stray, or a value that is no node at all. -/
inductive Foreign where
  | stray (s : Stray)
  | literal (v : Literal)

/-- A foreign object as it is written in reports. -/
def Foreign.inspect : Foreign → Text
  | .stray s => s.inspect
  | .literal v => v.inspect

/-- The report that a traversal met a foreign object. -/
def Foreign.message (e : Foreign) : String :=
  "Invalid node in tree: " ++ String.ofList e.inspect

/-- The kinds of values that can be asked for: any node, a category, or a shape. -/
inductive Class where
  | node
  | category (c : Category)
  | shape (s : Shape)
  deriving DecidableEq

namespace Value

def ofFormula (t : Formula) : Value := .node t.embed.any

/-- The value of a tree without foreign objects. -/
def ofTree (t : AnyNode Empty) : Value := .node t.node.embed.any

def typeName : Value → String
  | .literal v => v.typeName
  | .node t =>
    match t.node.shape with
    | .ok s => s.name
    | .error _ => Stray.typeName

/-- A value as it is written in reports. -/
def inspect : Value → Text
  | .literal v => v.inspect
  | .node t => t.node.inspect Stray.inspect

/-- A value is of a class. A stray is a simple term without a shape. -/
def isA : Value → Class → Bool
  | .literal _, _ => false
  | .node _, .node => true
  | .node t, .category c => t.1 = c
  | .node t, .shape s =>
    match t.node.shape with
    | .ok r => r = s
    | .error _ => false

def root : Value → AnyNode Foreign
  | .literal v => (Node.foreign (.literal v)).any
  | .node t => (t.node.map .stray).any

end Value

/-! ## Equality -/

/-- A hash of a tree. It is taken of trees of any depth: the limit of an interpreter on nested calls
is set aside. -/
def Node.hash {α : Type} [Hashable α] : {c : Category} → Node α c → UInt64
  | _, .identifier n => mixHash 1 (Hashable.hash (String.ofList n.text))
  | _, .group body => mixHash 2 body.hash
  | _, .foreign e => mixHash 3 (Hashable.hash e)
  | _, .bare term => mixHash 4 term.hash
  | _, .negation operand => mixHash 5 operand.hash
  | _, .compound op left right =>
    mixHash (mixHash 6 (Hashable.hash op.symbol.toNat)) (mixHash left.hash right.hash)

/-- What two values must have in common to be equal. A truth value counts as the number zero or
one. -/
inductive Key where
  | absent
  | number (i : Int)
  | text (t : Text)
  | connective (op : Connective)
  | node (t : AnyNode Stray)
  deriving DecidableEq

def Key.hash : Key → UInt64
  | .absent => 0
  | .number i => mixHash 7 (Hashable.hash i)
  | .text t => mixHash 8 (Hashable.hash (String.ofList t))
  | .connective op => mixHash 9 (Hashable.hash op.symbol.toNat)
  | .node t => t.node.hash

/-- The key of a literal; a list has none. -/
def Literal.key? : Literal → Option Key
  | .absent => some .absent
  | .truth b => some (.number (if b then 1 else 0))
  | .integer i => some (.number i)
  | .text t => some (.text t)
  | .connective op => some (.connective op)
  | .list _ => none

/-- The key of a value; a list has none. -/
def Value.key? : Value → Option Key
  | .literal v => v.key?
  | .node t => some (.node t)

/-- What a comparison of two values finds: whether they are equal, whether their hashes are, which
is asked only of equal values, and the size of the set of both. -/
structure Comparison where
  equal : Bool
  sameHash : Option Bool
  distinct : Nat
  deriving DecidableEq

/-- Compares two keys. Trees of any depth are compared and hashed: the limit of an interpreter on
nested calls, by which this fails for deep trees, is set aside. -/
def Key.compare (a b : Key) : Comparison where
  equal := a = b
  sameHash := if a = b then some (a.hash == b.hash) else none
  distinct := [a, b].eraseDups.length

/-- Compares the trees of two formulas. -/
def Formula.compare (a b : Formula) : Comparison :=
  Key.compare (.node a.embed.any) (.node b.embed.any)

end Propositional
