import Propositional.Text.LetterCase

/-!
# Title case

A letter that follows no letter is put in title case, and the others in lower case. The capital
sigma has two lower-case forms: the final one at the end of a word, the other elsewhere.
-/

namespace Propositional.Text

/-- The first character of a text that is not passed over has a case. -/
def meetsCased (text : Text) : Bool :=
  match text.dropWhile caseIgnorable.contains with
  | [] => false
  | c :: _ => cased.contains c

/-- The lower case of a character that stands between two texts, the first one reversed. -/
def lowerBetween (before : Text) (c : Char) (after : Text) : Text :=
  if c = 'Σ' then
    if meetsCased before && !meetsCased after then ['ς'] else ['σ']
  else
    lowerCase.apply c

/-- The rest of a text in title case, after a part that is given reversed. -/
def titledAfter (before : Text) : Text → Text
  | [] => []
  | c :: rest =>
    let follows := match before with
      | [] => false
      | b :: _ => cased.contains b
    (if follows then lowerBetween before c rest else titleCase.apply c) ++
      titledAfter (c :: before) rest

def titled (text : Text) : Text := titledAfter [] text

end Propositional.Text
