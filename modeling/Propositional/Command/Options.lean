import Propositional.Log

/-!
# Options of the command

What a call of the command asks for: where the formula comes from, how the tree is printed, and how
much is reported on the way. A setting may be given a void value, which is found out only when the
value is put to use (`VoidUse`). The level of the log is chosen by the amount of output and by the
debug level (`levelFor`).
-/

namespace Propositional.Command

/-! ## Given values -/

/-- The value of a setting that is given: a proper one, or a void one, which counts as given but
holds nothing. -/
inductive Given (β : Type) where
  | proper (b : β)
  | void
  deriving DecidableEq

/-- The uses that a void value cannot be put to: a path is looked up, a debug level is compared, and
so is a limit on open groups. -/
inductive VoidUse where
  | path
  | debug
  | limit
  deriving DecidableEq

/-- The report that a void value was put to use. -/
def VoidUse.message : VoidUse → String
  | .path => "'list' object has no attribute 'exists'"
  | .debug => "'>=' not supported between instances of 'list' and 'int'"
  | .limit => "'>' not supported between instances of 'int' and 'list'"

/-! ## Choices -/

/-- How a tree is printed. -/
inductive Format where
  | tree
  | canonical
  deriving DecidableEq

def Format.word : Format → String
  | .tree => "tree"
  | .canonical => "canonical"

/-- The formats in the order in which they are listed. -/
def Format.all : List Format := [.tree, .canonical]

/-- How much is printed. -/
inductive Output where
  | silent
  | normal
  | verbose
  deriving DecidableEq

def Output.word : Output → String
  | .silent => "silent"
  | .normal => "normal"
  | .verbose => "verbose"

/-- The amounts of output in the order in which they are listed. -/
def Output.all : List Output := [.silent, .normal, .verbose]

/-! ## Options -/

/-- Where the formula comes from. -/
inductive Origin where
  | expression (text : Text)
  | file (path : Given Text)
  deriving DecidableEq

/-- What a call of the command asks for. -/
structure Options where
  origin : Origin
  format : Format
  output : Output
  debug : Given (Fin 4)
  maxDepth : Option (Given Int)
  stats : Bool

/-! ## The level of the log -/

/-- The level of the log for a word on the amount of output and a debug level. A word that is not
known counts as the normal one. -/
def levelFor (output : String) (debug : Int) : Log.Level :=
  if 3 ≤ debug then .debug
  else if output = Output.verbose.word ∨ 1 ≤ debug then .verbose
  else if output = Output.silent.word then .silent
  else .normal

end Propositional.Command
