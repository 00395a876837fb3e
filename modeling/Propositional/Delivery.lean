/-!
# Deliveries

Token streams and tree traversals hand out items one by one and may break off with a failure. A
`Delivery` holds both: what was handed out, and the failure that cut it short, if one did.
-/

namespace Propositional

/-- A sequence of items, and the failure that cut it short, if one did. -/
structure Delivery (ε β : Type) where
  items : List β
  failure : Option ε
  deriving DecidableEq

namespace Delivery

variable {ε β : Type}

/-- Nothing delivered, and no failure. -/
def done : Delivery ε β := ⟨[], none⟩

/-- Nothing delivered because of a failure. -/
def broken (e : ε) : Delivery ε β := ⟨[], some e⟩

def cons (b : β) (d : Delivery ε β) : Delivery ε β := ⟨b :: d.items, d.failure⟩

end Delivery

end Propositional
