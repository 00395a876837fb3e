import Propositional.Node
import Propositional.Parse.Failure

/-!
# The grammar

A text is read as a formula of the grammar

    proposition := '!' simple | simple ('&' | '|' | '>') simple | simple
    simple      := identifier | '(' proposition ')'

by descent with one token read ahead. A proposition holds at most one connective, so there is no
precedence. Each opened group costs one unit of room; there is room for `ceiling` groups within one
another, which is what the recursion ends by.

The steps of the grammar are put together from operations of any monad. `Operations` go along the
tokens, and `Makers` make terms of one type and formulas of another.
-/

namespace Propositional

namespace Parse

/-- The number of groups that may be open at once in any parse. -/
def ceiling : Nat := 490

/-- The number of open groups that a parse allows if nothing else is asked for. -/
def defaultLimit : Int := 200

/-- The connective that the current token is, if it is one. -/
def connective? (t : Option Token) : Option Connective :=
  match t.map Token.lexeme with
  | some (.connective op) => some op
  | _ => none

end Parse

/-! ## Operations -/

/-- The operations of a descent along the tokens of a text. -/
structure Operations (m : Type → Type) where
  /-- The current token, or none at the end of the text. -/
  current : m (Option Token)
  /-- Pulls the next token. -/
  advance : m Unit
  /-- Opens a group whose parenthesis has a given index, or fails if too many groups are open. -/
  enter (index : Int) : m Unit
  /-- Closes the innermost group. -/
  leave : m Unit
  /-- Fails. -/
  fail {β : Type} (e : ParseFailure) : m β

/-- The operations that make terms `τ` and formulas `φ`. A connective is asked for by itself, before
the term on its right is there. -/
structure Makers (m : Type → Type) (τ φ : Type) where
  connective (op : Connective) : m Connective
  identifier (n : Name) : m τ
  group (body : φ) : m τ
  bare (term : τ) : m φ
  negation (operand : τ) : m φ
  compound (op : Connective) (left right : τ) : m φ

/-- Makes trees. Nothing can go wrong. -/
def Makers.plain {m : Type → Type} [Monad m] : Makers m Term Formula where
  connective op := pure op
  identifier n := pure (.identifier n)
  group body := pure (.group body)
  bare term := pure (.bare term)
  negation operand := pure (.negation operand)
  compound op left right := pure (.compound op left right)

/-! ## The steps of the grammar -/

namespace Operations

variable {m : Type → Type} [Monad m] {τ φ : Type} (ops : Operations m) (make : Makers m τ φ)

/-- Passes over the closing parenthesis of a group. -/
def closeGroup : m Unit := do
  match ← ops.current with
  | none => ops.fail (.incomplete .closing)
  | some t => if t.lexeme = .closing then ops.advance else ops.fail (.unexpected .closing t)

/-- A proposition, with a given step for its simple terms. -/
def proposition (simple : m τ) : m φ := do
  if (← ops.current).map Token.lexeme = some .negation then
    ops.advance
    make.negation (← simple)
  else
    let left ← simple
    match Parse.connective? (← ops.current) with
    | none => make.bare left
    | some op =>
      ops.advance
      let op ← make.connective op
      make.compound op left (← simple)

/-- A simple term, with room for a number of groups within one another. -/
def simple (room : Nat) : m τ := do
  match ← ops.current with
  | none => ops.fail (.incomplete .operand)
  | some t =>
    match t.lexeme with
    | .identifier n =>
      ops.advance
      make.identifier n
    | .opening =>
      ops.enter t.index
      match room with
      | 0 => ops.fail .ceilingExceeded
      | r + 1 =>
        ops.advance
        let body ← ops.proposition make (simple r)
        ops.closeGroup
        ops.leave
        make.group body
    | _ => ops.fail (.unexpected .operand t)

/-- A whole text: a proposition up to its end, on which a report is made. -/
def wholeText (report : φ → m Unit) : m φ := do
  ops.advance
  let formula ← ops.proposition make (ops.simple make Parse.ceiling)
  match ← ops.current with
  | some t => ops.fail (.unexpected .finish t)
  | none =>
    report formula
    return formula

end Operations

end Propositional
