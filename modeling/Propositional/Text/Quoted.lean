import Propositional.Text.Printable

/-!
# Quoted texts

A text in quotes, on one line and in printable characters only. The quote is `'`, or `"` where the
text holds `'` and no `"`. A backslash and the quote in use are escaped by a backslash, line feeds,
carriage returns and tabs by a letter, and other unprintable characters by their code point.
-/

namespace Propositional.Text

def quoteFor (text : Text) : Char :=
  if text.contains '\x27' && !text.contains '\x22' then '\x22' else '\x27'

/-- A number in lower-case hexadecimal digits, filled up with zeros to a width. -/
def hexadecimal (width n : Nat) : Text :=
  let digits := Nat.toDigits 16 n
  List.replicate (width - digits.length) '0' ++ digits

/-- The escape of a code point: the shortest of `\x`, `\u` and `\U` that has room for it. -/
def codeEscape (n : Nat) : Text :=
  if n < 0x100 then '\\' :: 'x' :: hexadecimal 2 n
  else if n < 0x10000 then '\\' :: 'u' :: hexadecimal 4 n
  else '\\' :: 'U' :: hexadecimal 8 n

/-- A character as it stands between quotes of a given kind. -/
def quotedChar (quote c : Char) : Text :=
  if c = quote ∨ c = '\\' then ['\\', c]
  else if c = '\n' then ['\\', 'n']
  else if c = '\r' then ['\\', 'r']
  else if c = '\t' then ['\\', 't']
  else if ' ' ≤ c ∧ c < '\x7f' ∨ isPrintable c = true then [c]
  else codeEscape c.toNat

def quoted (text : Text) : Text :=
  quoteFor text :: text.flatMap (quotedChar (quoteFor text)) ++ [quoteFor text]

end Propositional.Text
