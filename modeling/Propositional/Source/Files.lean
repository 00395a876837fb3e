import Propositional.Source.Path

/-!
# Looking up files

What is found at a path. `Files.find` looks a path up among files below a working directory: it goes
through the parts of the path from left to right, and each part but the last must lead to a
directory. Of what lies outside the working directory it is known that there are directories above
it, and that the system has a null device, which reads as an empty file.
-/

namespace Propositional

/-- An error of the system: its number and its description. -/
structure SystemError where
  number : Nat
  description : String
  deriving DecidableEq

namespace SystemError

/-- A directory cannot be read as a file. -/
def isDirectory : SystemError := ⟨21, "Is a directory"⟩

/-- A path or a name in it is too long. -/
def nameTooLong : SystemError := ⟨36, "File name too long"⟩

end SystemError

/-- What is found at a path. -/
inductive Found where
  | nothing
  | directory
  | file (bytes : List UInt8)
  | unreadable (e : SystemError)
  deriving DecidableEq

/-- The files below a working directory, each with its path from there. A directory is listed
without bytes; the directories above a listed path exist as well. -/
abbrev Files := List (List Text × Option (List UInt8))

/-- A place that a look-up has reached: below the working directory or below the root of the system,
with the names on the way from there in reverse, or somewhere above the working directory. -/
inductive Place where
  | below (names : List Text)
  | above
  | system (names : List Text)

/-- The place that a name leads to from a directory, unless nothing is known of it. The root of the
system is above itself. -/
def Place.step : Place → Text → Option Place
  | .below (_ :: names), ['.', '.'] => some (.below names)
  | .below [], ['.', '.'] => some .above
  | .above, ['.', '.'] => some .above
  | .system names, ['.', '.'] => some (.system names.tail)
  | .below names, name => some (.below (name :: names))
  | .above, _ => none
  | .system names, name => some (.system (name :: names))

namespace Files

/-- The null device, as a file below the root of the system. -/
def system : Files := [(["dev".toList, "null".toList], some [])]

/-- What is at the end of a path, given by its names, among files. -/
def holding (files : Files) (path : List Text) : Found :=
  match files.find? fun f => f.1 = path with
  | some (_, some bytes) => .file bytes
  | some (_, none) => .directory
  | none => if path = [] ∨ files.any fun f => path.isPrefixOf f.1 then .directory else .nothing

def at? (files : Files) : Place → Found
  | .above => .directory
  | .below names => files.holding names.reverse
  | .system names => system.holding names.reverse

/-- The number of bytes that a text takes in UTF-8. -/
def byteLength : Text → Nat
  | [] => 0
  | c :: rest => c.utf8Size + byteLength rest

/-- The greatest number of bytes of a name. -/
def maxName : Nat := 255

/-- The number of bytes that a path must stay below. -/
def pathBound : Nat := 4096

/-- What is found when the parts of a path are followed from a place. -/
def follow (files : Files) (place : Place) : List Text → Found
  | [] => files.at? place
  | part :: rest =>
    if files.at? place ≠ .directory then .nothing
    else if maxName < byteLength part then .unreadable .nameTooLong
    else
      match place.step part with
      | some next => files.follow next rest
      | none => .nothing

/-- What is found at a path. A path with a null character leads nowhere. -/
def find (files : Files) (p : Path) : Found :=
  if p.text.contains '\x00' then .nothing
  else if pathBound ≤ byteLength p.text then .unreadable .nameTooLong
  else files.follow (if p.root = [] then .below [] else .system []) p.parts

end Files

end Propositional
