import Propositional.Node.Measure
import Propositional.Parse
import Propositional.Value.Construct

/-!
# Parsing with checks

In `Propositional.Parse` the types leave nothing to check: a node is built of nodes of the right
category. Here a parse builds values with the constructors that check what they are given. What it
looks up may be missing: the character that a failing pull reports is looked up in the text, the
connective of a compound proposition by its name, and the nodes of the result are counted by a
traversal, which stops at what is no node.

Main statement: a composite step runs one part after the other (`Checked.run_bind`).
-/

namespace Propositional

/-- The part of a text from an index on. A negative index counts from the end of the text, and one
in front of the text is that of its beginning. -/
def Text.fromIndex (text : Text) (index : Int) : Text :=
  text.drop (if index < 0 then (text.length + index).toNat else index.toNat)

/-- What a parse with checks may fail with: the text is no formula, a check refuses a value, there
is no character to be reported, or the nodes of the result cannot be counted. -/
inductive CheckedFailure where
  | parse (failure : ParseFailure)
  | refused (refusal : Refusal)
  | noCharacter (index : Int)
  | fault (fault : Fault Foreign)

/-- A step of a descent with checks. -/
abbrev Checked := StateT ParseState (Except CheckedFailure)

namespace Checked

variable {β γ : Type}

theorem run_bind (w : Checked β) (k : β → Checked γ) (s : ParseState) :
    (w >>= k).run s =
      match w.run s with
      | .error e => .error e
      | .ok (b, s') => (k b).run s' := by
  rw [StateT.run_bind]
  rcases w.run s with e | ⟨b, s'⟩ <;> rfl

/-! ## Steps -/

def fail (e : ParseFailure) : Checked β := throw (.parse e)

/-- A value that was asked for, unless it is refused. -/
def obtained (r : Except Refusal β) : Checked β :=
  match r with
  | .ok b => return b
  | .error e => throw (.refused e)

def current : Checked (Option Token) := return (← get).current

/-- The first token at or after a cursor, with the cursor just past it. Of a foreign character only
the index is taken; the character is the first one of the text from there on. -/
def nextToken (text : Text) (cursor : Int) : Except CheckedFailure (Option Token × Int) :=
  match pull 1 text cursor with
  | .token t => .ok (some t, t.cursor)
  | .finished => .ok (none, text.length)
  | .foreign e =>
    match text.fromIndex e.index with
    | c :: _ => .error (.parse (.foreign ⟨c, e.index⟩))
    | [] => .error (.noCharacter e.index)

def advance : Checked Unit := do
  let s ← get
  match nextToken s.text s.cursor with
  | .error e => throw e
  | .ok (t, cursor) => set { s with cursor := cursor, current := t }

/-- Opens a group, unless more groups would be open than a limit allows. -/
def enter (limit : Option Int) : Checked Unit := do
  modify fun s => { s with depth := s.depth + 1 }
  let depth := (← get).depth
  match limit.filter fun m => m < (depth : Int) with
  | some m => fail (.ofLimit m)
  | none => return

def leave : Checked Unit := modify fun s => { s with depth := s.depth - 1 }

/-- The operations of a descent with checks. -/
def operations (limit : Option Int) : Operations Checked where
  current := current
  advance := advance
  enter _ := enter limit
  leave := leave
  fail := fail

/-- Makes values with the constructors that check them. -/
def makers : Makers Checked Value Value where
  connective op := obtained (Value.namedConnective (.literal (.text op.name.toList)))
  identifier n := obtained (Value.makeIdentifier (.literal (.text n.text)))
  group body := obtained body.makeGroup
  bare term := obtained term.makeBare
  negation operand := obtained operand.makeNegation
  compound op left right := obtained (Value.makeCompound (.literal (.connective op)) left right)

/-- Counts the nodes of a value if a log of some level takes a report on it. -/
def report (level : Log.Level) (v : Value) : Checked Unit := do
  if level.admits .verbose then
    match v.root.node.count with
    | .ok _ => return
    | .error e => throw (.fault e)

def wholeText (level : Log.Level) (limit : Option Int) : Checked Value :=
  (operations limit).wholeText makers (report level)

end Checked

end Propositional
