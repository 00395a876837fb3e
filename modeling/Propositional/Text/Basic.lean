import Propositional.Text.CharSet

/-!
# Texts

A text is the list of its characters, so every position counted in this library is a number of
characters. Two notions of white space live here.

1. `Text.isBlank`: the six characters that may stand between the lexemes of a formula.
2. `Text.isWhite`: the white space of Unicode, which is trimmed from the lines of a file.

Main statement: the leading blanks of a text and what follows them make up its length
(`Text.leadingBlanks_add_length_skipBlanks`).
-/

namespace Propositional

/-- A text is the list of its characters. -/
abbrev Text := List Char

namespace Text

/-! ## Blanks -/

/-- The characters that may stand between lexemes: space, tab, line feed, carriage return, form
feed and vertical tab. -/
def blanks : List Char := [' ', '\t', '\n', '\r', '\x0c', '\x0b']

/-- A blank separates lexemes and means nothing else. -/
def isBlank (c : Char) : Bool := blanks.contains c

/-- The text without its leading blanks. -/
def skipBlanks (text : Text) : Text := text.dropWhile isBlank

/-- The number of leading blanks of a text. -/
def leadingBlanks (text : Text) : Nat := (text.takeWhile isBlank).length

/-- The leading blanks and what follows them are the whole text. -/
theorem leadingBlanks_add_length_skipBlanks (text : Text) :
    text.leadingBlanks + text.skipBlanks.length = text.length := by
  rw [leadingBlanks, skipBlanks, ← List.length_append, List.takeWhile_append_dropWhile]

/-! ## White space -/

/-- The white space of Unicode and the information separators of ASCII. -/
def white : CharSet where
  ranges := [
    (0x09, 0x0d), (0x1c, 0x20), (0x85, 0x85), (0xa0, 0xa0), (0x1680, 0x1680), (0x2000, 0x200a),
    (0x2028, 0x2029), (0x202f, 0x202f), (0x205f, 0x205f), (0x3000, 0x3000)]

/-- White space is trimmed from the ends of a line. -/
def isWhite (c : Char) : Bool := white.contains c

/-- The text without white space at its two ends. -/
def trim (text : Text) : Text :=
  ((text.dropWhile isWhite).reverse.dropWhile isWhite).reverse

end Text

end Propositional
