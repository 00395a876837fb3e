import Propositional.Log

/-!
# Events of a parse

What happens in the course of a parse, and how a log reports it.
-/

namespace Propositional

/-- An event of a parse. -/
inductive Event where
  | pulled (t : Token)
  | finished (index : Int)
  | entered (depth : Nat) (index : Int)
  | left (depth : Nat)
  | parsed (text : Text) (nodes : Nat)
  deriving DecidableEq

def Event.entry : Event → Log.Entry
  | .pulled t => .token (some t) t.index
  | .finished index => .token none index
  | .entered depth index =>
    .debug "Entering group" [("depth", toString depth), ("index", toString index)]
  | .left depth => .debug "Leaving group" [("depth", toString depth)]
  | .parsed text nodes => .parsed text nodes

end Propositional
