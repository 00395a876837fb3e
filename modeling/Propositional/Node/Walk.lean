import Propositional.Delivery
import Propositional.Node

/-!
# Walks over a tree

Two traversals with a stack of pending nodes, so that they need no recursion as deep as the tree.

1. `Node.walk` delivers each node with its depth, before its children.
2. `Node.bottomUp` delivers each node after its children.

Both look at the children of a node before they go on, and break off at a foreign object, which has
none to show. Main statement: both come to an end, since the pending nodes shrink
(`AnyNode.size_of_children?`).
-/

namespace Propositional

variable {α : Type} {c : Category}

/-! ## Before the children -/

/-- The number of nodes that are still to be walked over. -/
def pendingSize (pending : List (AnyNode α × Nat)) : Nat :=
  AnyNode.totalSize (pending.map Prod.fst)

/-- Walks over the pending nodes with their depths, after nodes that are given reversed. -/
def walkFrom (visited : List (AnyNode α × Nat)) (pending : List (AnyNode α × Nat)) :
    Delivery α (AnyNode α × Nat) :=
  match pending with
  | [] => ⟨visited.reverse, none⟩
  | (t, depth) :: rest =>
    match _h : t.node.children? with
    | .error e => ⟨visited.reverse, some e⟩
    | .ok children =>
      walkFrom ((t, depth) :: visited) (children.map (·, depth + 1) ++ rest)
termination_by pendingSize pending
decreasing_by
  have := AnyNode.size_of_children? _h
  have : List.map Prod.fst (children.map fun t => (t, depth + 1)) = children := by
    simp [Function.comp_def]
  simp only [pendingSize, List.map_append, List.map_cons, AnyNode.totalSize_append,
    AnyNode.totalSize, this]
  omega

/-- The nodes of a tree with their depths, each before its children, up to a foreign object. -/
def Node.walk (root : Node α c) : Delivery α (AnyNode α × Nat) := walkFrom [] [(root.any, 0)]

/-! ## After the children -/

/-- What is pending: a node to be entered, or one whose children are done. -/
inductive Pending (α : Type) where
  | enter (t : AnyNode α)
  | leave (t : AnyNode α)

/-- The number of steps that something pending takes: a node is entered and left once. -/
def Pending.steps : Pending α → Nat
  | .enter t => 2 * t.size
  | .leave _ => 1

/-- The number of steps that all that is pending takes. -/
def Pending.totalSteps : List (Pending α) → Nat
  | [] => 0
  | p :: rest => p.steps + totalSteps rest

theorem Pending.totalSteps_append (ps qs : List (Pending α)) :
    totalSteps (ps ++ qs) = totalSteps ps + totalSteps qs := by
  induction ps with
  | nil => simp [totalSteps]
  | cons p ps ih => simp [totalSteps, ih, Nat.add_assoc]

theorem Pending.totalSteps_enter (ts : List (AnyNode α)) :
    totalSteps (ts.map .enter) = 2 * AnyNode.totalSize ts := by
  induction ts with
  | nil => rfl
  | cons t ts ih => simp only [totalSteps, steps, AnyNode.totalSize, List.map_cons]; omega

/-- Goes through what is pending, after nodes that have been left and are given reversed. -/
def bottomUpFrom (left : List (AnyNode α)) (pending : List (Pending α)) : Delivery α (AnyNode α) :=
  match pending with
  | [] => ⟨left.reverse, none⟩
  | .leave t :: rest => bottomUpFrom (t :: left) rest
  | .enter t :: rest =>
    match _h : t.node.children? with
    | .error e => ⟨left.reverse, some e⟩
    | .ok children => bottomUpFrom left (children.map .enter ++ .leave t :: rest)
termination_by Pending.totalSteps pending
decreasing_by
  · simp [Pending.totalSteps, Pending.steps]
  · have := AnyNode.size_of_children? _h
    simp only [Pending.totalSteps_append, Pending.totalSteps_enter, Pending.totalSteps,
      Pending.steps]
    omega

/-- The nodes of a tree, each after its children, up to a foreign object. -/
def Node.bottomUp (root : Node α c) : Delivery α (AnyNode α) :=
  bottomUpFrom [] [.enter root.any]

end Propositional
