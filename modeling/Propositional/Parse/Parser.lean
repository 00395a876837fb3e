import Propositional.Node.Measure
import Propositional.Parse
import Propositional.Token.Session

/-!
# Parsers

A parser is kept from one parse to the next. It holds its settings, the mark of the lexer it pulls
tokens with, and all that it has written to its log. Every pull reads the mark and leaves another
one, and every event is handed to the log as it happens. What has been marked and written stays when
a parse fails. The state of the descent is made anew for each parse.

A parser without a log of its own has a silent one. The nodes of a formula are counted only if the
log takes the report on it.

Main statement: a composite step runs one part after the other, with the parser handed on
(`Working.run_bind`).
-/

namespace Propositional

/-- The settings of a parser: the limit on open groups and the level of the log. -/
structure Settings where
  limit : Option Int
  level : Log.Level

/-- A parser: its settings, the mark of its lexer, and what has been written to its log. -/
structure Parser extends Settings where
  mark : Mark
  written : String

/-- A parser that has not been used, with a log of some level or without one. -/
def Parser.new (limit : Option Int) (logger : Option Log.Level) : Parser :=
  ⟨⟨limit, logger.getD .silent⟩, ⟨[], 0⟩, ""⟩

/-- What a parse with a parser may fail with: the text is no formula, or the nodes of the formula
cannot be counted. -/
inductive ParserFailure where
  | parse (failure : ParseFailure)
  | fault (fault : Fault Empty)

/-- A step of a descent with a parser at hand. -/
abbrev Working := StateT ParseState (ExceptT ParserFailure (StateM Parser))

namespace Working

variable {β γ : Type}

/-- What comes of a step from a state with a parser, and the parser afterwards. -/
def run (w : Working β) (s : ParseState) (p : Parser) :
    Except ParserFailure (β × ParseState) × Parser :=
  (StateT.run (ExceptT.run (StateT.run w s)) p).run

theorem run_bind (w : Working β) (k : β → Working γ) (s : ParseState) (p : Parser) :
    (w >>= k).run s p =
      match w.run s p with
      | (.error e, p) => (.error e, p)
      | (.ok (b, s), p) => (k b).run s p := by
  simp only [run, bind, StateT.bind, ExceptT.bind, ExceptT.mk, ExceptT.bindCont, StateT.run,
    ExceptT.run, Id.run]
  rcases w s p with ⟨_ | ⟨b, s'⟩, p'⟩ <;> rfl

/-! ## Steps -/

/-- Hands an event to the log of the parser. -/
def tell (e : Event) : Working Unit :=
  modifyThe Parser fun p => { p with written := p.written ++ Log.write p.level e.entry }

/-- Leaves a mark in the lexer of the parser. -/
def setMark (m : Mark) : Working Unit := modifyThe Parser fun p => { p with mark := m }

def fail (e : ParseFailure) : Working β := throw (.parse e)

def current : Working (Option Token) := return (← get).current

/-- Pulls the next token. Nothing is written of a failing pull, but the mark stays. -/
def advance : Working Unit := do
  let s ← get
  let p ← getThe Parser
  let (pulled, mark) := pullMarking s.text s.cursor p.mark
  setMark mark
  match pulled with
  | .error e => fail (.foreign e)
  | .ok (some t, cursor) =>
    tell (.pulled t)
    set { s with cursor := cursor, current := some t }
  | .ok (none, cursor) =>
    tell (.finished cursor)
    set { s with cursor := cursor, current := none }

/-- Opens a group whose parenthesis has a given index, unless more groups would be open than the
parser allows. -/
def enter (index : Int) : Working Unit := do
  modify fun s => { s with depth := s.depth + 1 }
  let depth := (← get).depth
  tell (.entered depth index)
  match (← getThe Parser).limit.filter fun m => m < (depth : Int) with
  | some m => fail (.ofLimit m)
  | none => return

def leave : Working Unit := do
  tell (.left (← get).depth)
  modify fun s => { s with depth := s.depth - 1 }

/-- The operations of a descent with a parser at hand. -/
def operations : Operations Working where
  current := current
  advance := advance
  enter := enter
  leave := leave
  fail := fail

/-- Reports on a formula to the log if it takes such reports. -/
def report (text : Text) (formula : Formula) : Working Unit := do
  if (← getThe Parser).level.admits .verbose then
    match formula.count with
    | .ok nodes => tell (.parsed text nodes)
    | .error e => throw (.fault e)

def wholeText (text : Text) : Working Formula := operations.wholeText .plain (report text)

end Working

/-! ## Parses -/

/-- Parses a text with a parser. The result is the formula or the failure, and the parser
afterwards. -/
def Parser.parse (p : Parser) (text : Text) : Except ParserFailure Formula × Parser :=
  let r := (Working.wholeText text).run ⟨text, 0, none, 0⟩ p
  (r.1.map Prod.fst, r.2)

/-- Parses a text with a new parser, with at most `limit` groups open at once and a log of some
level, or without one. The result is the formula or the failure, and what has been written. -/
def parseWriting (limit : Option Int) (logger : Option Log.Level) (text : Text) :
    Except ParserFailure Formula × String :=
  let r := (Parser.new limit logger).parse text
  (r.1, r.2.written)

end Propositional
