import Propositional.Log
import Propositional.Token.Stream

/-!
# Log sessions

A session writes entries to one log whose level may be changed between them. The rows of an entry
come with names of their own, and two names are taken; an entry with such a row is refused, whatever
the level.
-/

namespace Propositional.Log

/-! ## Clashes -/

/-- The names that no row of an entry may have. -/
def reservedKeys : List String := ["self", "message"]

/-- A row of an entry has a name that is taken. -/
structure Clash where
  operation : String
  key : String
  deriving DecidableEq

def Clash.message (e : Clash) : String :=
  s!"ParserLogger.{e.operation}() got multiple values for argument '{e.key}'"

/-- The first clash in an entry, if there is one. -/
def Entry.clash? : Entry → Option Clash
  | .debug _ fields => clashIn "debug" fields
  | .info _ fields => clashIn "info" fields
  | _ => none
where
  /-- The first clash in the rows of an operation. -/
  clashIn (operation : String) (rows : Rows) : Option Clash :=
    (rows.find? fun row => reservedKeys.contains row.1).map fun row => ⟨operation, row.1⟩

/-! ## Requests -/

/-- A request to a log. The first token of a text at or after a cursor may be written as if it stood
at any index. -/
inductive Request where
  | write (e : Entry)
  | writeToken (text : Text) (cursor index : Int)
  | asks (level : Level)
  | setLevel (level : Level)
  | level

/-- The answer to a request. -/
inductive Answer where
  | wrote (text : String)
  | foreign (e : ForeignCharacter)
  | clash (e : Clash)
  | admits (b : Bool)
  | level (l : Level)

/-- The answer of a log of a given level to a request, with the level it leaves. -/
def serve (level : Level) : Request → Answer × Level
  | .write e =>
    match e.clash? with
    | some clash => (.clash clash, level)
    | none => (.wrote (write level e), level)
  | .writeToken text cursor index =>
    match nextToken text cursor with
    | .ok (t, _) => (.wrote (write level (.token t index)), level)
    | .error e => (.foreign e, level)
  | .asks other => (.admits (level.admits other), level)
  | .setLevel new => (.wrote "", new)
  | .level => (.level level, level)

/-- The answers to a sequence of requests. -/
def serveAll (level : Level) : List Request → List Answer
  | [] => []
  | r :: rest => (serve level r).1 :: serveAll (serve level r).2 rest

end Propositional.Log
