import Propositional.Text.Basic

/-!
# Paths

A path is a root, which may be absent, and a list of parts. Reading a path drops empty parts and
parts that are a single dot; a part of two dots is kept, since what it leads to depends on the
directories on the way.
-/

namespace Propositional

/-- A path: the slashes at its front, and its parts. -/
structure Path where
  root : Text
  parts : List Text
  deriving DecidableEq

namespace Path

/-- The pieces of a text between slashes. -/
def splitSlashes : Text → List Text
  | [] => [[]]
  | c :: rest =>
    if c = '/' then [] :: splitSlashes rest
    else
      match splitSlashes rest with
      | [] => [[c]]
      | part :: more => (c :: part) :: more

/-- The root of a path: exactly two slashes at the front are kept, other numbers count as one. -/
def rootOf (text : Text) : Text :=
  match (text.takeWhile (· = '/')).length with
  | 0 => []
  | 2 => ['/', '/']
  | _ => ['/']

def ofText (text : Text) : Path :=
  ⟨rootOf text, (splitSlashes text).filter fun part => part ≠ [] ∧ part ≠ ['.']⟩

/-- The text of a path; a path without root and parts is a single dot. -/
def text (p : Path) : Text :=
  if p.root = [] ∧ p.parts = [] then ['.'] else p.root ++ ['/'].intercalate p.parts

end Path

end Propositional
