import Propositional.Text.Basic

/-!
# Connectives

The three binary connectives of a formula, with the three ways they are written: the symbol in a
formula, the name in a report, and the sign in a printed tree. Main statement: the symbol
determines the connective (`Connective.ofSymbol?_symbol`, `Connective.symbol_of_ofSymbol?`).
-/

namespace Propositional

/-- The binary connectives. -/
inductive Connective where
  | conjunction
  | disjunction
  | implication
  deriving DecidableEq

namespace Connective

/-- The connectives in the order in which they are listed. -/
def all : List Connective := [.conjunction, .disjunction, .implication]

/-- The symbol that stands for the connective in a formula. -/
def symbol : Connective → Char
  | .conjunction => '&'
  | .disjunction => '|'
  | .implication => '>'

/-- The name of the connective in reports. -/
def name : Connective → String
  | .conjunction => "AND"
  | .disjunction => "OR"
  | .implication => "IMPLIES"

/-- The sign of the connective in a printed tree. -/
def sign : Connective → Char
  | .conjunction => '∧'
  | .disjunction => '∨'
  | .implication => '→'

/-- The connective with a given symbol. -/
def ofSymbol? (c : Char) : Option Connective := all.find? fun op => op.symbol = c

def ofName? (s : String) : Option Connective := all.find? fun op => op.name = s

/-! ## Symbols determine connectives -/

theorem ofSymbol?_symbol (op : Connective) : ofSymbol? op.symbol = some op := by
  cases op <;> decide

theorem symbol_of_ofSymbol? {c : Char} {op : Connective} (h : ofSymbol? c = some op) :
    op.symbol = c := by
  simpa using List.find?_some h

end Connective

end Propositional
