import Propositional.Text.Numeral
import Propositional.Token

/-!
# Parse failures

The ways in which a text is no formula. A formula may be too deep in two ways: by a limit that the
caller sets, or by the ceiling on open groups that holds for every parse. The report on a limit
quotes it, so a limit that cannot be written makes for a failure of its own
(`ParseFailure.ofLimit`).
-/

namespace Propositional

/-- What a formula must go on with. -/
inductive Expected where
  | operand
  | closing
  | finish
  deriving DecidableEq

def Expected.text : Expected → String
  | .operand => "identifier or '('"
  | .closing => "')'"
  | .finish => "end of input"

/-- Why a text is no formula. -/
inductive ParseFailure where
  | foreign (e : ForeignCharacter)
  | unexpected (expected : Expected) (t : Token)
  | incomplete (expected : Expected)
  | limitExceeded (limit : Int)
  | limitUnwritable
  | ceilingExceeded
  deriving DecidableEq

def ParseFailure.message : ParseFailure → String
  | .foreign e => e.message
  | .unexpected expected t =>
    s!"Syntax error: expected {expected.text}, got '{String.ofList t.text}' " ++
      s!"(type: {t.kind.name}, index: {t.index})"
  | .incomplete expected => s!"Syntax error: expected {expected.text}, got end of input"
  | .limitExceeded limit => s!"Nesting exceeds maximum depth of {limit}"
  | .limitUnwritable =>
    s!"Exceeds the limit ({Text.maxDigits} digits) for integer string conversion; " ++
      "use sys.set_int_max_str_digits() to increase the limit"
  | .ceilingExceeded => "Nesting exceeds the interpreter recursion limit"

/-- The failure of opening more groups than a limit allows. -/
def ParseFailure.ofLimit (limit : Int) : ParseFailure :=
  if Text.isWritable limit then .limitExceeded limit else .limitUnwritable

section Limits

variable {limit : Int}

theorem ParseFailure.ofLimit_of_isWritable (h : Text.isWritable limit = true) :
    ofLimit limit = .limitExceeded limit := if_pos h

theorem ParseFailure.ofLimit_of_not (h : Text.isWritable limit = false) :
    ofLimit limit = .limitUnwritable := if_neg (by simp [h])

/-- Too many open groups are no syntax error and no foreign character. -/
theorem ParseFailure.ofLimit_cases (limit : Int) :
    ofLimit limit = .limitExceeded limit ∨ ofLimit limit = .limitUnwritable := by
  unfold ofLimit
  split
  · exact .inl rfl
  · exact .inr rfl

end Limits

end Propositional
