import Propositional.Node.Render
import Propositional.Parse
import Propositional.Value

/-!
# Round trips

A text is parsed, the formula is written as its canonical text, and that is parsed again.
-/

namespace Propositional

/-- A round trip: the canonical text before and after the second parse, and how the two formulas
compare. -/
structure RoundTrip where
  text : Text
  again : Text
  comparison : Comparison

/-- Why a round trip may fail. -/
inductive RoundTripFailure where
  | parse (failure : ParseFailure)
  | fault (fault : Fault Empty)

namespace RoundTrip

def read (text : Text) : Except RoundTripFailure Formula :=
  (parse (some Parse.defaultLimit) text).outcome.mapError .parse

def write (formula : Formula) : Except RoundTripFailure Text := formula.render.mapError .fault

def ofText (text : Text) : Except RoundTripFailure RoundTrip := do
  let first ← read text
  let canonical ← write first
  let second ← read canonical
  return ⟨canonical, ← write second, Formula.compare first second⟩

end RoundTrip

end Propositional
