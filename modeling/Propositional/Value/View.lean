import Propositional.Node.Outline
import Propositional.Node.Render
import Propositional.Value

/-!
# Views of values

What the traversals make of a value. A value that is no node is a foreign object at the root, so
every view but the shown text of a literal fails with it.
-/

namespace Propositional.Value

def render (v : Value) : Except (Fault Foreign) Text := v.root.node.render

def outline (v : Value) : Except (Fault Foreign) Text := v.root.node.outline

/-- A value as it is shown to a reader: a node by its canonical text. -/
def shown : Value → Except (Fault Foreign) Text
  | .literal l => .ok l.shown
  | .node t => (Value.node t).render

def count (v : Value) : Except (Fault Foreign) Nat := v.root.node.count

/-- The depth of the deepest node of a value. -/
def depth (v : Value) : Except (Fault Foreign) Nat := v.root.node.depth

/-- The names of the identifiers in a value in increasing order. -/
def identifiers (v : Value) : Except (Fault Foreign) (List Text) := v.root.node.identifiers

/-- The nodes of a value with their depths, each before its children. -/
def walk (v : Value) : Delivery Foreign (AnyNode Foreign × Nat) := v.root.node.walk

/-- The nodes of a value, each after its children. -/
def bottomUp (v : Value) : Delivery Foreign (AnyNode Foreign) := v.root.node.bottomUp

/-- The nodes of a value in the order in which they are released, and their number unless a foreign
object was met on the way. -/
def teardown (v : Value) : List (AnyNode Foreign) × Except (Fault Foreign) Nat :=
  let t := v.root.node.teardown (fun released node => node :: released) []
  (t.1.reverse, t.2)

end Propositional.Value
