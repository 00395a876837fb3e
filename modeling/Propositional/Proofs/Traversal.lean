import Mathlib.Data.List.TakeWhile
import Propositional.Node.Measure
import Propositional.Proofs.Addresses

/-!
# What the traversals deliver

A traversal with a stack of pending nodes delivers the order of the tree by recursion, up to the
first foreign object in it.

1. `walkFrom_eq` and `bottomUpFrom_eq`: what is still to be delivered is the orders of what is
   pending, one after the other. A node whose children are shown is replaced by them on the stack,
   and its order is put together from theirs in the same way (`AnyNode.preorder_of_children?`,
   `AnyNode.postorder_of_children?`).
2. `Node.walk_eq_upTo` and `Node.bottomUp_eq_upTo`: so the traversals of a tree deliver its two
   orders.
3. `Node.filterMap_preorder` and `Node.filterMap_postorder`: both orders come upon the foreign
   objects from left to right, since these have no children. Hence the traversals break off at the
   same one.
-/

namespace Propositional

variable {α : Type}

/-! ## Orders up to a failure -/

namespace Delivery

variable {ε β : Type} {failure? : β → Option ε} {b : β} {bs : List β}

/-- The items of a list up to the first one that is a failure. -/
def upTo (failure? : β → Option ε) (bs : List β) : Delivery ε β :=
  ⟨bs.takeWhile fun b => (failure? b).isNone, bs.findSome? failure?⟩

def after (bs : List β) (d : Delivery ε β) : Delivery ε β := ⟨bs ++ d.items, d.failure⟩

theorem after_upTo_cons (h : failure? b = none) (front : List β) :
    (upTo failure? (b :: bs)).after front = (upTo failure? bs).after (front ++ [b]) := by
  simp [upTo, after, h]

theorem upTo_cons_of_some {e : ε} (h : failure? b = some e) :
    upTo failure? (b :: bs) = broken e := by
  simp [upTo, broken, h]

theorem upTo_eq_of_forall (h : ∀ b ∈ bs, failure? b = none) : upTo failure? bs = ⟨bs, none⟩ := by
  have htake : bs.takeWhile (fun b => (failure? b).isNone) = bs :=
    List.takeWhile_eq_self_iff.2 fun b hb => by simp [h b hb]
  rw [upTo, htake, List.findSome?_eq_none_iff.2 h]

end Delivery

/-! ## Foreign objects -/

namespace AnyNode

variable {t : AnyNode α} {ts : List (AnyNode α)} {e : α}

/-- The foreign object that a node is, if it is one. -/
def foreign? : AnyNode α → Option α
  | ⟨_, .foreign e⟩ => some e
  | _ => none

/-- The foreign object that is visited at some depth, if it is one. -/
def foreignVisit? (v : AnyNode α × Nat) : Option α := v.1.foreign?

theorem foreign?_eq_some_iff : t.foreign? = some e ↔ t.node.children? = .error e := by
  obtain ⟨c, t⟩ := t
  cases t <;> simp [foreign?, Node.children?]

theorem foreign?_of_children? (h : t.node.children? = .ok ts) : t.foreign? = none := by
  cases hf : t.foreign? with
  | none => rfl
  | some e => cases (foreign?_eq_some_iff.1 hf).symm.trans h

theorem preorder_of_foreign? (h : t.foreign? = some e) (depth : Nat) :
    t.node.preorder depth = [(t, depth)] := by
  obtain ⟨c, t⟩ := t
  cases t <;> cases h
  rfl

theorem postorder_of_foreign? (h : t.foreign? = some e) : t.node.postorder = [t] := by
  obtain ⟨c, t⟩ := t
  cases t <;> cases h
  rfl

theorem preorder_of_children? (h : t.node.children? = .ok ts) (depth : Nat) :
    t.node.preorder depth = (t, depth) :: ts.flatMap fun u => u.node.preorder (depth + 1) := by
  rw [preorder_eq, children_of_children? h]

theorem postorder_of_children? (h : t.node.children? = .ok ts) :
    t.node.postorder = ts.flatMap (fun u => u.node.postorder) ++ [t] := by
  rw [postorder_eq, children_of_children? h]

end AnyNode

/-! ## Stacks of pending nodes -/

/-- A walk delivers the orders of the pending nodes, one after the other. -/
theorem walkFrom_eq (visited pending : List (AnyNode α × Nat)) :
    walkFrom visited pending =
      (Delivery.upTo AnyNode.foreignVisit?
        (pending.flatMap fun p => p.1.node.preorder p.2)).after visited.reverse := by
  fun_induction walkFrom visited pending with
  | case1 visited => simp [Delivery.upTo, Delivery.after]
  | case2 visited t depth rest e h =>
    have hf := AnyNode.foreign?_eq_some_iff.2 h
    rw [List.flatMap_cons, AnyNode.preorder_of_foreign? hf, List.singleton_append,
      Delivery.upTo_cons_of_some (b := (t, depth)) hf]
    simp [Delivery.after, Delivery.broken]
  | case3 visited t depth rest children h ih =>
    -- The node is visited, and its children stand on the stack in its place.
    rw [ih, List.flatMap_append, List.flatMap_map, List.reverse_cons, List.flatMap_cons,
      AnyNode.preorder_of_children? h, List.cons_append,
      Delivery.after_upTo_cons (b := (t, depth)) (AnyNode.foreign?_of_children? h)]

/-- The order of what is pending: that of a node to be entered, or a node that is left. -/
def Pending.order : Pending α → List (AnyNode α)
  | .enter t => t.node.postorder
  | .leave t => [t]

/-- A traversal bottom-up delivers the orders of what is pending, one after the other. Only nodes
that have shown their children are left. -/
theorem bottomUpFrom_eq (left : List (AnyNode α)) (pending : List (Pending α))
    (hleave : ∀ t, .leave t ∈ pending → t.foreign? = none) :
    bottomUpFrom left pending =
      (Delivery.upTo AnyNode.foreign? (pending.flatMap Pending.order)).after left.reverse := by
  fun_induction bottomUpFrom left pending with
  | case1 left => simp [Delivery.upTo, Delivery.after]
  | case2 left t rest ih =>
    have ht := hleave t List.mem_cons_self
    rw [ih fun u hu => hleave u (List.mem_cons_of_mem _ hu), List.flatMap_cons, Pending.order,
      List.singleton_append, Delivery.after_upTo_cons ht, List.reverse_cons]
  | case3 left t rest e h =>
    have hf := AnyNode.foreign?_eq_some_iff.2 h
    rw [List.flatMap_cons, Pending.order, AnyNode.postorder_of_foreign? hf, List.singleton_append,
      Delivery.upTo_cons_of_some hf]
    simp [Delivery.after, Delivery.broken]
  | case4 left t rest children h ih =>
    have horder : (children.map Pending.enter ++ .leave t :: rest).flatMap Pending.order =
        (Pending.enter t :: rest).flatMap Pending.order := by
      simp [Pending.order, AnyNode.postorder_of_children? h, List.flatMap_map]
    rw [ih ?_, horder]
    intro u hu
    obtain hu | hu := List.mem_append.1 hu
    · simp at hu
    · obtain hu | hu := List.mem_cons.1 hu
      · cases hu
        exact AnyNode.foreign?_of_children? h
      · exact hleave u (List.mem_cons_of_mem _ hu)

namespace Node

variable {c : Category}

theorem walk_eq_upTo (t : Node α c) : t.walk = .upTo AnyNode.foreignVisit? (t.preorder 0) := by
  rw [walk, walkFrom_eq, List.flatMap_singleton]
  rfl

theorem bottomUp_eq_upTo (t : Node α c) : t.bottomUp = .upTo AnyNode.foreign? t.postorder := by
  rw [bottomUp, bottomUpFrom_eq [] _ (by simp), List.flatMap_singleton]
  rfl

/-! ## The foreign objects of a tree -/

/-- The foreign objects of a tree from left to right. -/
def foreigners : {c : Category} → Node α c → List α
  | _, .identifier _ => []
  | _, .group body => body.foreigners
  | _, .foreign e => [e]
  | _, .bare term => term.foreigners
  | _, .negation operand => operand.foreigners
  | _, .compound _ left right => left.foreigners ++ right.foreigners

theorem filterMap_preorder : {c : Category} → (t : Node α c) → (depth : Nat) →
    (t.preorder depth).filterMap AnyNode.foreignVisit? = t.foreigners
  | _, .identifier n, depth => rfl
  | _, .group body, depth => body.filterMap_preorder (depth + 1)
  | _, .foreign e, depth => rfl
  | _, .bare term, depth => term.filterMap_preorder (depth + 1)
  | _, .negation operand, depth => operand.filterMap_preorder (depth + 1)
  | _, .compound op left right, depth => by
    rw [preorder, List.filterMap_cons_none rfl, List.filterMap_append, left.filterMap_preorder,
      right.filterMap_preorder]
    rfl

theorem filterMap_postorder : {c : Category} → (t : Node α c) →
    t.postorder.filterMap AnyNode.foreign? = t.foreigners
  | _, .identifier n => rfl
  | _, .group body => by
    rw [postorder, List.filterMap_append, body.filterMap_postorder]
    exact List.append_nil _
  | _, .foreign e => rfl
  | _, .bare term => by
    rw [postorder, List.filterMap_append, term.filterMap_postorder]
    exact List.append_nil _
  | _, .negation operand => by
    rw [postorder, List.filterMap_append, operand.filterMap_postorder]
    exact List.append_nil _
  | _, .compound op left right => by
    rw [postorder, List.filterMap_append, List.filterMap_append, left.filterMap_postorder,
      right.filterMap_postorder]
    exact List.append_nil _

end Node

/-- A value for a tree without foreign objects; otherwise the failure for the first of them. -/
def unlessForeign {β : Type} : List α → β → Except (Fault α) β
  | [], b => .ok b
  | e :: _, _ => .error (.foreign e)

namespace Node

variable {β : Type}

theorem gather_of_failure {d : Delivery α β} {es : List α} {γ : Type} (hd : d.failure = es.head?)
    (f : List β → Except (Fault α) γ) :
    gather d f = unlessForeign es () >>= fun _ => f d.items := by
  unfold gather
  rw [hd]
  cases es <;> rfl

variable {c : Category} {t : Node α c}

theorem failure_walk (t : Node α c) : t.walk.failure = t.foreigners.head? := by
  rw [walk_eq_upTo, ← t.filterMap_preorder 0, List.head?_filterMap]
  rfl

theorem failure_bottomUp (t : Node α c) : t.bottomUp.failure = t.foreigners.head? := by
  rw [bottomUp_eq_upTo, ← t.filterMap_postorder, List.head?_filterMap]
  rfl

theorem walk_of_foreigners (h : t.foreigners = []) : t.walk = ⟨t.preorder 0, none⟩ := by
  rw [← t.filterMap_preorder 0, List.filterMap_eq_nil_iff] at h
  rw [walk_eq_upTo, Delivery.upTo_eq_of_forall h]

theorem bottomUp_of_foreigners (h : t.foreigners = []) : t.bottomUp = ⟨t.postorder, none⟩ := by
  rw [← t.filterMap_postorder, List.filterMap_eq_nil_iff] at h
  rw [bottomUp_eq_upTo, Delivery.upTo_eq_of_forall h]

theorem gather_walk (t : Node α c) (f : List (AnyNode α × Nat) → Except (Fault α) β) :
    gather t.walk f = unlessForeign t.foreigners () >>= fun _ => f (t.preorder 0) := by
  rw [gather_of_failure t.failure_walk]
  cases h : t.foreigners with
  | nil =>
    rw [walk_of_foreigners h]
  | cons e es => rfl

theorem gather_bottomUp (t : Node α c) (f : List (AnyNode α) → Except (Fault α) β) :
    gather t.bottomUp f = unlessForeign t.foreigners () >>= fun _ => f t.postorder := by
  rw [gather_of_failure t.failure_bottomUp]
  cases h : t.foreigners with
  | nil => rw [bottomUp_of_foreigners h]
  | cons e es => rfl

theorem foreigners_eq_nil (t : Node Empty c) : t.foreigners = [] := by
  cases t.foreigners with
  | nil => rfl
  | cons e es => exact e.elim

theorem unlessForeign_foreigners (t : Node Empty c) (b : β) :
    unlessForeign t.foreigners b = .ok b := by
  rw [foreigners_eq_nil]
  rfl

end Node

end Propositional
