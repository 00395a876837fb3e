import Propositional.Text.Basic

/-!
# Lines

A file of text is cut into lines in two steps.

1. `unifyBreaks` turns a carriage return, alone or before a line feed, into a line feed.
2. `lines` cuts at every line break of Unicode. A break ends a line, so a text that ends with one
   has no empty line after it.
-/

namespace Propositional.Text

/-- The text with each carriage return, alone or before a line feed, replaced by a line feed. -/
def unifyBreaks : Text → Text
  | [] => []
  | '\r' :: '\n' :: rest => '\n' :: unifyBreaks rest
  | c :: rest => (if c = '\r' then '\n' else c) :: unifyBreaks rest

def breaks : CharSet where
  ranges := [(0x0a, 0x0d), (0x1c, 0x1e), (0x85, 0x85), (0x2028, 0x2029)]

def isBreak (c : Char) : Bool := breaks.contains c

/-- The lines of a text, without the characters that end them. -/
def lines : Text → List Text
  | [] => []
  | c :: rest =>
    if isBreak c then [] :: lines rest
    else
      match lines rest with
      | [] => [[c]]
      | line :: more => (c :: line) :: more

end Propositional.Text
