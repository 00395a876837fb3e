import Propositional.Parse
import Propositional.Value

/-!
# Checked construction

Nodes are built from values, and a value that does not fit is refused. The operands of a compound
proposition are checked from left to right: the connective, the left term, the right term.
-/

namespace Propositional

/-! ## Refusals -/

/-- The roles of a child in its node. -/
inductive Role where
  | groupBody
  | bareTerm
  | negationOperand
  | leftOperand
  | rightOperand
  deriving DecidableEq

def Role.text : Role → String
  | .groupBody => "Nested child"
  | .bareTerm => "Leaf term"
  | .negationOperand => "Unary operand"
  | .leftOperand => "Binary left operand"
  | .rightOperand => "Binary right operand"

/-- The category that a role asks for. -/
def Role.category : Role → Category
  | .groupBody => .proposition
  | _ => .simple

/-- The name of a category in reports. -/
def Category.name : Category → String
  | .simple => "Simple"
  | .proposition => "Proposition"

/-- The changes that may be asked for in a field. -/
inductive Change where
  | set
  | delete
  deriving DecidableEq

def Change.word : Change → String
  | .set => "set"
  | .delete => "delete"

/-- The kinds of fields that can be read but not changed: the two inherent ones of a connective, the
one derived from them, and those of a number. -/
inductive FixedField where
  | inherent
  | derived
  | numeric
  deriving DecidableEq

/-- The report that a field was to be changed. -/
def FixedField.message (name : String) (change : Change) : FixedField → String
  | .inherent => s!"<enum 'Enum'> cannot {change.word} attribute '{name}'"
  | .derived =>
    let lacking := match change with
      | .set => "setter"
      | .delete => "deleter"
    s!"property '{name}' of 'BinaryOp' object has no {lacking}"
  | .numeric => s!"attribute '{name}' of 'int' objects is not writable"

/-- Why a request for values is refused. -/
inductive Refusal where
  | nameType (got : String)
  | nameText (text : Text)
  | childType (role : Role) (got : String)
  | connectiveType (got : String)
  | missingOperands
  | immutable (type : String)
  | noField (type field : String)
  | fixedField (kind : FixedField) (field : String) (change : Change)
  | noConnective (value : Text)
  | noConnectiveName (value : Text)
  | unhashable (type : String)
  | emptyRegister (index : Nat)
  | unparsed (failure : ParseFailure)

def Refusal.message : Refusal → String
  | .nameType got => s!"Identifier name must be str, got {got}"
  | .nameText text => s!"Invalid identifier name: {String.ofList text.quoted}"
  | .childType role got => s!"{role.text} must be a {role.category.name} node, got {got}"
  | .connectiveType got => s!"Binary op must be a BinaryOp, got {got}"
  | .missingOperands =>
    "Binary.__init__() missing 2 required positional arguments: 'left' and 'right'"
  | .immutable type => s!"{type} nodes are immutable"
  | .noField type field => s!"'{type}' object has no attribute '{field}'"
  | .fixedField kind field change => kind.message field change
  | .noConnective value => s!"{String.ofList value} is not a valid BinaryOp"
  | .noConnectiveName value => String.ofList value
  | .unhashable type => s!"unhashable type: '{type}'"
  | .emptyRegister index => toString index
  | .unparsed failure => failure.message

/-! ## Construction -/

namespace Value

/-- The node that a value is, if it is of the category that a role asks for. -/
def as (role : Role) (v : Value) : Except Refusal (Node Stray role.category) :=
  match v with
  | .literal l => .error (.childType role l.typeName)
  | .node t =>
    if h : t.category = role.category then .ok (h ▸ t.node)
    else .error (.childType role (Value.node t).typeName)

/-- An identifier with a value as its name. -/
def makeIdentifier : Value → Except Refusal Value
  | .literal (.text t) =>
    match Name.ofText? t with
    | some n => .ok (.node (Node.identifier n).any)
    | none => .error (.nameText t)
  | v => .error (.nameType v.typeName)

def makeGroup (body : Value) : Except Refusal Value := do
  return .node (Node.group (← body.as .groupBody)).any

def makeBare (term : Value) : Except Refusal Value := do
  return .node (Node.bare (← term.as .bareTerm)).any

def makeNegation (operand : Value) : Except Refusal Value := do
  return .node (Node.negation (← operand.as .negationOperand)).any

def makeCompound (op left right : Value) : Except Refusal Value :=
  match op with
  | .literal (.connective op) => do
    let left ← left.as .leftOperand
    let right ← right.as .rightOperand
    return .node (Node.compound op left right).any
  | v => .error (.connectiveType v.typeName)

/-- The node of a shape with a value as its only operand. -/
def make (shape : Shape) (v : Value) : Except Refusal Value :=
  match shape with
  | .identifier => v.makeIdentifier
  | .group => v.makeGroup
  | .bare => v.makeBare
  | .negation => v.makeNegation
  | .compound => .error .missingOperands

/-- Puts a value into nodes of given shapes, one after the other. -/
def wrap (shapes : List Shape) (v : Value) : Except Refusal Value :=
  shapes.foldlM (fun v shape => v.make shape) v

def wrapTimes (shapes : List Shape) : Nat → Value → Except Refusal Value
  | 0, v => .ok v
  | n + 1, v => do wrapTimes shapes n (← v.wrap shapes)

/-! ## Parts of a value -/

/-- The field of a literal with a given name, and its kind. A truth value has the fields of the
number that it counts as. -/
def literalField? (l : Literal) (name : String) : Option (FixedField × Literal) :=
  match l, name with
  | .connective op, "name" => some (.inherent, .text op.name.toList)
  | .connective op, "value" => some (.inherent, .text [op.symbol])
  | .connective op, "symbol" => some (.derived, .text [op.symbol])
  | .truth b, name => numberField? (if b then 1 else 0) name
  | .integer i, name => numberField? i name
  | _, _ => none
where
  /-- The field of a number with a given name. -/
  numberField? (i : Int) : String → Option (FixedField × Literal)
    | "real" | "numerator" => some (.numeric, .integer i)
    | "imag" => some (.numeric, .integer 0)
    | "denominator" => some (.numeric, .integer 1)
    | _ => none

/-- The field of a value with a given name. -/
def field (v : Value) (name : String) : Except Refusal Value :=
  let missing := .error (.noField v.typeName name)
  match v with
  | .literal l =>
    match literalField? l name with
    | some (_, content) => .ok (.literal content)
    | none => missing
  | .node t =>
    match t, name with
    | ⟨_, .identifier n⟩, "name" => .ok (.literal (.text n.text))
    | ⟨_, .group body⟩, "child" => .ok (.node body.any)
    | ⟨_, .bare term⟩, "term" => .ok (.node term.any)
    | ⟨_, .negation operand⟩, "operand" => .ok (.node operand.any)
    | ⟨_, .compound op _ _⟩, "op" => .ok (.literal (.connective op))
    | ⟨_, .compound _ left _⟩, "left" => .ok (.node left.any)
    | ⟨_, .compound _ _ right⟩, "right" => .ok (.node right.any)
    | _, _ => missing

/-- A field of a value as it is written in reports. The operation that lists the children of a node
is written with the node that it belongs to. -/
def inspectField (v : Value) (name : String) : Except Refusal Text :=
  match v, name with
  | .node _, "children" =>
    .ok ("<bound method ".toList ++ v.typeName.toList ++ ".children of ".toList ++ v.inspect ++ ['>'])
  | _, _ => do return (← v.field name).inspect

/-- Why a change in the field with a given name is refused: a node never changes, nor does a field
that a literal has. -/
def refusalOfChange (v : Value) (change : Change) (name : String) : Refusal :=
  match v with
  | .literal l =>
    match literalField? l name with
    | some (kind, _) => .fixedField kind name change
    | none => .noField l.typeName name
  | .node _ => .immutable v.typeName

/-- The children of a node from left to right; a stray shows none. -/
def children (v : Value) : Except Refusal (List Value) :=
  match v with
  | .literal l => .error (.noField l.typeName "children")
  | .node t =>
    match t.node.children? with
    | .ok ts => .ok (ts.map .node)
    | .error _ => .ok []

/-- The connective that a value stands for: itself, or the one with this symbol. -/
def toConnective (v : Value) : Except Refusal Connective :=
  match v with
  | .literal (.connective op) => .ok op
  | .literal (.text [c]) =>
    match Connective.ofSymbol? c with
    | some op => .ok op
    | none => .error (.noConnective v.inspect)
  | _ => .error (.noConnective v.inspect)

/-- The connective that a value names. -/
def namedConnective (v : Value) : Except Refusal Connective :=
  match v with
  | .literal (.text t) =>
    match Connective.ofName? (String.ofList t) with
    | some op => .ok op
    | none => .error (.noConnectiveName v.inspect)
  | .literal (.list items) => .error (.unhashable (Literal.list items).typeName)
  | _ => .error (.noConnectiveName v.inspect)

/-- The key of a value that is compared or put into a set. -/
def key (v : Value) : Except Refusal Key :=
  match v.key? with
  | some k => .ok k
  | none => .error (.unhashable v.typeName)

end Value

end Propositional
