import Propositional.Parse.Descent

/-!
# Parsing

`parse` reads a text as a formula by the descent that records events. A parse with a parser that
writes its log, and one with constructors that check what they are given, end in the same way.
-/

namespace Propositional

namespace Parse

/-! ## The steps of the grammar -/

def closeGroup (limit : Option Int) : Descent Unit := (Descent.operations limit).closeGroup

/-- The step for a proposition, with a given step for its simple terms. -/
def proposition (limit : Option Int) (simple : Descent Term) : Descent Formula :=
  (Descent.operations limit).proposition .plain simple

/-- The step for a simple term, with room for a number of groups within one another. -/
def simple (limit : Option Int) (room : Nat) : Descent Term :=
  (Descent.operations limit).simple .plain room

def wholeText (limit : Option Int) (text : Text) : Descent Formula :=
  (Descent.operations limit).wholeText .plain fun p => Descent.record (.parsed text p.size)

theorem wholeText_eq (limit : Option Int) (text : Text) :
    wholeText limit text = (do
      Descent.advance
      let p ← proposition limit (simple limit ceiling)
      match ← Descent.current with
      | some t => Descent.fail (.unexpected .finish t)
      | none =>
        Descent.record (.parsed text p.size)
        return p) := rfl

end Parse

/-! ## Parses -/

/-- A parse: the events in its course, and the formula or the failure. -/
structure Parse where
  events : List Event
  outcome : Except ParseFailure Formula

/-- Parses a text with at most `limit` groups open at once. -/
def parse (limit : Option Int) (text : Text) : Parse :=
  let course := Parse.wholeText limit text ⟨text, 0, none, 0⟩
  ⟨course.events, course.outcome.map Prod.fst⟩

/-- What a log of a level writes in the course of a parse. -/
def Parse.log (p : Parse) (level : Log.Level) : String :=
  Log.writeAll level (p.events.map Event.entry)

end Propositional
