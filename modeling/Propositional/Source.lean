import Propositional.Text.Lines

/-!
# Proposition files

A proposition file holds one formula, which may run over several lines. Lines that are blank or
start with `#` are comments. The formula is what the other lines hold, joined by single spaces.
-/

namespace Propositional.Source

/-- A line that says nothing: a blank one, or a comment. -/
def isSilent (line : Text) : Bool :=
  match line.trim with
  | [] => true
  | c :: _ => c = '#'

/-- The lines that hold the formula, without white space at their ends. -/
def speakingLines (content : Text) : List Text :=
  ((content.unifyBreaks.lines).filter fun line => !isSilent line).map Text.trim

/-- The formula in the content of a file, if there is one. -/
def formulaText? (content : Text) : Option Text :=
  match speakingLines content with
  | [] => none
  | lines => some ([' '].intercalate lines)

end Propositional.Source
