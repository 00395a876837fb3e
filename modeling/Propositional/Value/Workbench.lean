import Propositional.Value.Construct

/-!
# Workbenches

A workbench builds values step by step. Each step may put a value into the register that bears the
number of the step, and later steps take it from there.
-/

namespace Propositional

/-- The registers of a workbench, one for each step so far; a step without a value leaves its
register empty. -/
structure Workbench where
  registers : Array (Option Value)

/-- An operand of a step: a register or a literal. -/
inductive Operand where
  | register (index : Nat)
  | literal (v : Literal)

/-- A step at a workbench. -/
inductive Task where
  | make (shape : Shape) (operand : Operand)
  | makeCompound (op left right : Operand)
  | stray
  | parse (text : Text)
  | wrap (operand : Operand) (shapes : List Shape) (times : Nat)
  | view (operand : Operand)
  | compare (a b : Operand)
  | countDistinct (operands : List Operand)
  | isA (operand : Operand) (cls : Option Class)
  | change (operand : Operand) (change : Change) (name : String)
  | field (operand : Operand) (name : String)
  | connective (operand : Operand)
  | namedConnective (operand : Operand)
  | connectives

/-- What a step answers. -/
inductive Report where
  | made (v : Value)
  | viewed (v : Value)
  | compared (c : Comparison)
  | counted (n : Nat)
  | decided (b : Bool)
  | inspected (t : Text)
  | connective (op : Connective)
  | connectives (ops : List Connective)

namespace Workbench

def empty : Workbench := ⟨#[]⟩

def value (w : Workbench) : Operand → Except Refusal Value
  | .literal v => .ok (.literal v)
  | .register i =>
    match w.registers[i]? with
    | some (some v) => .ok v
    | _ => .error (.emptyRegister i)

def answer (w : Workbench) : Task → Except Refusal Report
  | .make shape operand => do return .made (← (← w.value operand).make shape)
  | .makeCompound op left right => do
    return .made (← (← w.value op).makeCompound (← w.value left) (← w.value right))
  | .stray => .ok (.made (.node (Node.foreign ⟨w.registers.size⟩).any))
  | .parse text =>
    match (Propositional.parse (some Parse.defaultLimit) text).outcome with
    | .ok formula => .ok (.made (.ofFormula formula))
    | .error failure => .error (.unparsed failure)
  | .wrap operand shapes times => do
    return .made (← (← w.value operand).wrapTimes shapes times)
  | .view operand => do return .viewed (← w.value operand)
  | .compare a b => do
    return .compared ((← (← w.value a).key).compare (← (← w.value b).key))
  | .countDistinct operands => do
    let keys ← operands.mapM fun o => do (← w.value o).key
    return .counted keys.eraseDups.length
  | .isA operand cls => do
    let v ← w.value operand
    return .decided (cls.any v.isA)
  | .change operand change name => do throw ((← w.value operand).refusalOfChange change name)
  | .field operand name => do return .inspected (← (← w.value operand).inspectField name)
  | .connective operand => do return .connective (← (← w.value operand).toConnective)
  | .namedConnective operand => do
    return .connective (← (← w.value operand).namedConnective)
  | .connectives => .ok (.connectives Connective.all)

/-- The workbench after a step with a given answer. -/
def after (w : Workbench) (answer : Except Refusal Report) : Workbench :=
  ⟨w.registers.push <| match answer with
    | .ok (.made v) => some v
    | _ => none⟩

/-- The answers of a sequence of steps. -/
def run (w : Workbench) : List Task → List (Except Refusal Report)
  | [] => []
  | task :: rest =>
    let answer := w.answer task
    answer :: (w.after answer).run rest

end Workbench

end Propositional
