import Propositional.Connective
import Propositional.Name

/-!
# Lexemes

The words of the formula language: identifiers, the negation mark, connectives and parentheses.

1. `Lexeme.text` writes a lexeme and `Lexeme.kind` tells its kind.
2. `Lexeme.read?` takes the longest lexeme off the front of a text. It fails exactly where the
   text is empty or starts with a character that starts no lexeme.

Main statement: what is read is a front part of the text (`Lexeme.text_append_of_read?`), and is
never empty (`Lexeme.length_text_pos`), so reading always makes progress.
-/

namespace Propositional

/-- A lexeme of the formula language. -/
inductive Lexeme where
  | identifier (name : Name)
  | negation
  | connective (op : Connective)
  | opening
  | closing
  deriving DecidableEq

namespace Lexeme

/-! ## Kinds -/

/-- The kinds of lexemes: all that a lexeme is, save the name of an identifier. -/
inductive Kind where
  | identifier
  | negation
  | connective (op : Connective)
  | opening
  | closing
  deriving DecidableEq

def Kind.name : Kind → String
  | .identifier => "ID"
  | .negation => "NOT"
  | .connective op => op.name
  | .opening => "LPAREN"
  | .closing => "RPAREN"

def kind : Lexeme → Kind
  | .identifier _ => .identifier
  | .negation => .negation
  | .connective op => .connective op
  | .opening => .opening
  | .closing => .closing

def text : Lexeme → Text
  | .identifier n => n.text
  | .negation => ['!']
  | .connective op => [op.symbol]
  | .opening => ['(']
  | .closing => [')']

/-- A text fits a kind if some lexeme of the kind has this text. -/
def Kind.fits : Kind → Text → Bool
  | .identifier, v => !v.isEmpty && v.all Char.isAlphanum
  | .negation, v => v == ['!']
  | .connective op, v => v == [op.symbol]
  | .opening, v => v == ['(']
  | .closing, v => v == [')']

/-! ## Reading a lexeme -/

/-- The lexeme that a character is by itself, if it is one. -/
def ofSymbol? (c : Char) : Option Lexeme :=
  if c = '!' then some .negation
  else if c = '(' then some .opening
  else if c = ')' then some .closing
  else (Connective.ofSymbol? c).map .connective

/-- The longest lexeme at the front of a text, with the text that follows it. -/
def read? : Text → Option (Lexeme × Text)
  | [] => none
  | c :: rest =>
    if h : c.isAlphanum = true then
      some (.identifier ⟨c :: rest.takeWhile Char.isAlphanum, by simp, by simp [h]⟩,
        rest.dropWhile Char.isAlphanum)
    else
      (ofSymbol? c).map (·, rest)

/-! ## Progress -/

theorem text_of_ofSymbol? {c : Char} {x : Lexeme} (h : ofSymbol? c = some x) : x.text = [c] := by
  unfold ofSymbol? at h
  split at h
  · cases h; simp_all [text]
  split at h
  · cases h; simp_all [text]
  split at h
  · cases h; simp_all [text]
  obtain ⟨op, hop, rfl⟩ := Option.map_eq_some_iff.1 h
  rw [text, Connective.symbol_of_ofSymbol? hop]

/-- A lexeme that was read stood at the front of the text. -/
theorem text_append_of_read? {input rest : Text} {x : Lexeme} (h : read? input = some (x, rest)) :
    x.text ++ rest = input := by
  cases input with
  | nil => cases h
  | cons c tail =>
    rw [read?] at h
    split at h
    · cases h; simp [text]
    · obtain ⟨y, hy, e⟩ := Option.map_eq_some_iff.1 h
      cases e
      rw [text_of_ofSymbol? hy]
      rfl

theorem length_text_pos (x : Lexeme) : 0 < x.text.length := by
  cases x with
  | identifier n => exact List.length_pos_iff.2 n.nonempty
  | _ => simp [text]

end Lexeme

end Propositional
