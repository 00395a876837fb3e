import Propositional.Delivery
import Propositional.Token

/-!
# Token streams

Three ways to read the tokens of a text.

1. `nextToken` pulls one token and returns the cursor it leaves; `scan` repeats it.
2. `Stream.next` advances a stream by one token; the stream keeps its own place.
3. `tokenize` delivers all tokens of a stream.

Main statement: each of them comes to an end, because a pull makes progress (`pull_progress`).
-/

namespace Propositional

/-! ## Pulling token by token -/

/-- The first token at or after a cursor, with the cursor just past it. At the end of the text
there is no token and the cursor is the length of the text. -/
def nextToken (text : Text) (cursor : Int) : Except ForeignCharacter (Option Token × Int) :=
  match pull 1 text cursor with
  | .token t => .ok (some t, t.cursor)
  | .finished => .ok (none, text.length)
  | .foreign e => .error e

/-- A pull that finds a token leaves a later cursor within the text. -/
theorem nextToken_progress {text : Text} {cursor next : Int} {t : Token}
    (h : nextToken text cursor = .ok (some t, next)) : cursor < next ∧ next ≤ text.length := by
  unfold nextToken at h
  split at h
  · rename_i u hu
    cases h
    have := pull_progress hu
    have := t.index_lt_cursor
    omega
  · cases h
  · cases h

/-- All pulls from a cursor on, each from where the last one ended, with the cursors they leave.
The last pull finds the end of the text or fails. -/
def scan (text : Text) (cursor : Int) : Delivery ForeignCharacter (Option Token × Int) :=
  match _h : nextToken text cursor with
  | .error e => .broken e
  | .ok (none, next) => .cons (none, next) .done
  | .ok (some t, next) => .cons (some t, next) (scan text next)
termination_by (text.length - cursor).toNat
decreasing_by
  have := nextToken_progress _h
  omega

/-! ## Streams -/

/-- A stream of tokens: its text, the place it has reached, and the line its tokens are counted
to. -/
structure Stream where
  text : Text
  cursor : Int
  line : Int
  deriving DecidableEq

namespace Stream

def next (s : Stream) : Pull := pull s.line s.text s.cursor

/-- The stream just past a token that it delivered. -/
def past (s : Stream) (t : Token) : Stream := { s with cursor := t.stop }

def tokens (s : Stream) : Delivery ForeignCharacter Token :=
  match _h : s.next with
  | .finished => .done
  | .foreign e => .broken e
  | .token t => .cons t (s.past t).tokens
termination_by (s.text.length - s.cursor).toNat
decreasing_by
  have := pull_progress _h
  have := t.index_lt_cursor
  simp only [past]
  omega

end Stream

/-- The tokens of a text from an index on, counted to a given line. -/
def tokenize (text : Text) (line index : Int) : Delivery ForeignCharacter Token :=
  Stream.tokens ⟨text, index, line⟩

end Propositional
