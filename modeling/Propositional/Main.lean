import Propositional.Command.Run

/-!
# The program

The command as a program: it looks up the file that is asked for, runs the command and prints the
result.
-/

namespace Propositional

namespace SystemError

/-- The descriptions of some errors of the system by their numbers. -/
def descriptions : List (Nat × String) :=
  [(1, "Operation not permitted"), (5, "Input/output error"), (13, "Permission denied"),
    (36, "File name too long")]

/-- An error of the system with a given code, which may be the negative of its number. -/
def ofCode (code : UInt32) (details : String) : SystemError :=
  let number := (if code ≤ 4096 then code else 0 - code).toNat
  ⟨number, (descriptions.lookup number).getD details⟩

/-- The error of the system behind an error, if there is one. -/
def ofFailure? : IO.Error → Option SystemError
  | .otherError code details | .resourceBusy code details | .resourceVanished code details
  | .unsupportedOperation code details | .hardwareFault code details
  | .unsatisfiedConstraints code details | .illegalOperation code details
  | .protocolError code details | .timeExpired code details | .interrupted _ code details
  | .noFileOrDirectory _ code details | .alreadyExists _ code details
  | .invalidArgument _ code details | .permissionDenied _ code details
  | .resourceExhausted _ code details | .inappropriateType _ code details
  | .noSuchThing _ code details => some (ofCode code details)
  | .unexpectedEof | .userError _ => none

/-- The numbers of the errors that say that a path leads nowhere: there is no such file, or the path
is broken, leads through a file, or round in a circle. -/
def nowhere : List Nat := [2, 9, 20, 40]

end SystemError

/-- What the file system holds at a path. -/
def lookUp (path : Path) : IO Found := do
  if path.text.contains '\x00' then return .nothing
  try
    let bytes ← IO.FS.readBinFile (String.ofList path.text)
    return .file bytes.toList
  catch failure =>
    match SystemError.ofFailure? failure with
    | none => throw failure
    | some e =>
      if e.number ∈ SystemError.nowhere then return .nothing
      else if e.number = SystemError.isDirectory.number then return .directory
      else return .unreadable e

end Propositional

open Propositional

/-- Runs the command with the arguments of the program. -/
def main (arguments : List String) : IO UInt32 := do
  let texts := arguments.map String.toList
  let found ← match Command.requestedPath? texts with
    | some path => lookUp path
    | none => pure .nothing
  let result := Command.run (fun _ => found) texts
  IO.print result.output
  IO.eprint result.errors
  return UInt32.ofNat result.status.code
