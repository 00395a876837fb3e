import Propositional.Lexeme
import Propositional.Node.Order

/-!
# The grammar

The grammar of formulas over lexemes, apart from any parser:

    proposition := '!' simple | simple ('&' | '|' | '>') simple | simple
    simple      := identifier | '(' proposition ')'

`Derives t xs` says that the list of lexemes `xs` is derived with the tree `t`.

Main statement: a tree derives exactly one list, the lexemes of its canonical text from left to
right (`derives_iff`, `Node.text_eq_flatten`).
-/

namespace Propositional

/-- A list of lexemes is derived with a tree. There is one rule for each form of a node. -/
inductive Derives : {c : Category} → Node Empty c → List Lexeme → Prop where
  | identifier (n : Name) : Derives (.identifier n) [.identifier n]
  | group {body : Formula} {xs : List Lexeme} :
    Derives body xs → Derives (.group body) (.opening :: xs ++ [.closing])
  | bare {term : Term} {xs : List Lexeme} : Derives term xs → Derives (.bare term) xs
  | negation {operand : Term} {xs : List Lexeme} :
    Derives operand xs → Derives (.negation operand) (.negation :: xs)
  | compound {op : Connective} {left right : Term} {xs ys : List Lexeme} :
    Derives left xs → Derives right ys →
      Derives (.compound op left right) (xs ++ .connective op :: ys)

/-- The lexemes of a tree from left to right. -/
def Node.lexemes : {c : Category} → Node Empty c → List Lexeme
  | _, .identifier n => [.identifier n]
  | _, .group body => .opening :: body.lexemes ++ [.closing]
  | _, .bare term => term.lexemes
  | _, .negation operand => .negation :: operand.lexemes
  | _, .compound op left right => left.lexemes ++ .connective op :: right.lexemes

/-- A tree derives its lexemes. -/
theorem Node.derives_lexemes : {c : Category} → (t : Node Empty c) → Derives t t.lexemes
  | _, .identifier n => .identifier n
  | _, .group body => .group body.derives_lexemes
  | _, .bare term => .bare term.derives_lexemes
  | _, .negation operand => .negation operand.derives_lexemes
  | _, .compound _ left right => .compound left.derives_lexemes right.derives_lexemes

/-- A tree derives its lexemes and nothing else. -/
theorem derives_iff {c : Category} {t : Node Empty c} {xs : List Lexeme} :
    Derives t xs ↔ xs = t.lexemes := by
  constructor
  · intro h
    induction h with
    | identifier n => rfl
    | group _ ih => rw [ih]; rfl
    | bare _ ih => exact ih
    | negation _ ih => rw [ih]; rfl
    | compound _ _ ihl ihr => rw [ihl, ihr]; rfl
  · rintro rfl
    exact t.derives_lexemes

/-- The canonical text of a tree is the texts of its lexemes one after the other. -/
theorem Node.text_eq_flatten :
    {c : Category} → (t : Node Empty c) → t.text = (t.lexemes.map Lexeme.text).flatten
  | _, .identifier n => by simp [Node.text, Node.lexemes, Lexeme.text]
  | _, .group body => by simp [Node.text, Node.lexemes, Lexeme.text, body.text_eq_flatten]
  | _, .bare term => by simp [Node.text, Node.lexemes, term.text_eq_flatten]
  | _, .negation operand => by
    simp [Node.text, Node.lexemes, Lexeme.text, operand.text_eq_flatten]
  | _, .compound op left right => by
    simp [Node.text, Node.lexemes, Lexeme.text, left.text_eq_flatten, right.text_eq_flatten]

end Propositional
