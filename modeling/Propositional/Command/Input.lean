import Propositional.Command.Options
import Propositional.Source
import Propositional.Source.Files
import Propositional.Text.Utf8

/-!
# Input of the command

The text of the formula that a call of the command is about: an expression as it is given, or what a
proposition file holds. The input depends on where it comes from and on the files, and on no other
option.
-/

namespace Propositional.Command

/-- The text of a formula, and what the log reports on where it was read. -/
structure Input where
  text : Text
  entries : List Log.Entry

/-- Why there is no input. -/
inductive InputFailure where
  | notFound (path : Path)
  | unreadable (e : SystemError) (path : Path)
  | undecodable (failure : Text.Utf8.Failure)
  | empty
  | voidPath

def InputFailure.message : InputFailure → String
  | .notFound path => s!"Proposition file not found: {String.ofList path.text}"
  | .unreadable e path => s!"[Errno {e.number}] {e.description}: {String.ofList path.text.quoted}"
  | .undecodable failure => failure.message
  | .empty => "Proposition file is empty"
  | .voidPath => VoidUse.path.message

namespace Input

def ofBytes (path : Path) (bytes : List UInt8) : Except InputFailure Input := do
  let content ← (Text.Utf8.decode bytes).mapError .undecodable
  match Source.formulaText? content with
  | none => throw .empty
  | some text =>
    let rows := [("path", String.ofList path.text), ("length", toString text.length)]
    return ⟨text, [.info "Read proposition file" rows]⟩

/-- The input in what is found at a path. -/
def ofFound (path : Path) : Found → Except InputFailure Input
  | .nothing => .error (.notFound path)
  | .directory => .error (.unreadable .isDirectory path)
  | .unreadable e => .error (.unreadable e path)
  | .file bytes => ofBytes path bytes

def ofOrigin (find : Path → Found) : Origin → Except InputFailure Input
  | .expression text => .ok ⟨text, []⟩
  | .file (.proper path) => ofFound (.ofText path) (find (.ofText path))
  | .file .void => .error .voidPath

end Input

end Propositional.Command
