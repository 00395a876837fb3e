import Mathlib.Data.List.Perm.Basic
import Propositional.Node.Order

/-!
# Addresses in a tree

An address leads from the root of a tree down to a node: it is the list of the numbers of the
children on the way. A tree may hold equal subtrees at several places, but an address has one node
only, so it is in terms of addresses that a node is listed once, or after another one.

1. `AnyNode.mem_addresses_iff`: the addresses of a tree, as listed by recursion, are those that lead to
   a node.
2. `AnyNode.map_some_preorder` and `AnyNode.map_some_postorder`: the two orders of the nodes are the
   nodes at these addresses, and the depth of a node is the length of its address.
3. `AnyNode.pairwise_lt_addresses` and `AnyNode.pairwise_not_prefix_addresses`: in pre-order
   addresses increase as the words of a dictionary do, and in post-order none comes before one below
   it.

All of these go by the children of a node (`AnyNode.induction_on_children`), whatever its shape.
-/

namespace Propositional

variable {α : Type}

/-! ## Children -/

namespace AnyNode

/-- The children of a node from left to right. A foreign object counts as a node without any. -/
def children (t : AnyNode α) : List (AnyNode α) :=
  match t.node.children? with
  | .ok ts => ts
  | .error _ => []

theorem children_of_children? {t : AnyNode α} {ts : List (AnyNode α)}
    (h : t.node.children? = .ok ts) : t.children = ts := by
  rw [children, h]

theorem size_eq (t : AnyNode α) : t.size = totalSize t.children + 1 := by
  obtain ⟨c, t⟩ := t
  cases t <;> simp [children, Node.children?, size, totalSize, Node.size, Node.any]

theorem size_le_totalSize {u : AnyNode α} {ts : List (AnyNode α)} (h : u ∈ ts) :
    u.size ≤ totalSize ts := by
  induction ts with
  | nil => simp at h
  | cons t ts ih =>
    unfold totalSize
    rcases List.mem_cons.1 h with rfl | h
    · omega
    · have := ih h
      omega

theorem size_lt_of_mem_children {t u : AnyNode α} (h : u ∈ t.children) : u.size < t.size := by
  have := size_le_totalSize h
  have := t.size_eq
  omega

@[elab_as_elim]
theorem induction_on_children {motive : AnyNode α → Prop} (t : AnyNode α)
    (step : ∀ t : AnyNode α, (∀ u ∈ t.children, motive u) → motive t) : motive t :=
  step t fun u _ => induction_on_children u step
termination_by t.size
decreasing_by exact size_lt_of_mem_children ‹_›

theorem preorder_eq (t : AnyNode α) (depth : Nat) :
    t.node.preorder depth =
      (t, depth) :: t.children.flatMap fun u => u.node.preorder (depth + 1) := by
  obtain ⟨c, t⟩ := t
  cases t <;> simp [children, Node.children?, Node.preorder, Node.any]

theorem postorder_eq (t : AnyNode α) :
    t.node.postorder = t.children.flatMap (fun u => u.node.postorder) ++ [t] := by
  obtain ⟨c, t⟩ := t
  cases t <;> simp [children, Node.children?, Node.postorder, Node.any]

end AnyNode

/-! ## Addresses -/

/-- The numbers of the children on the way from the root of a tree to a node. -/
abbrev Address := List Nat

/-- The node at an address of a tree, if the address leads to one. -/
def AnyNode.at? (t : AnyNode α) : Address → Option (AnyNode α)
  | [] => some t
  | i :: a => t.children[i]?.bind fun u => u.at? a

namespace Address

/-- The addresses in several trees next to each other. Each of them begins with the number of the
tree, where the first tree has the given number. -/
def under : Nat → List (List Address) → List Address
  | _, [] => []
  | i, as :: more => as.map (i :: ·) ++ under (i + 1) more

/-- The addresses below a root, with that of the root itself in front or at the end. -/
def withRoot (rootFirst : Bool) (below : List Address) : List Address :=
  if rootFirst then [] :: below else below ++ [[]]

theorem mem_withRoot {rootFirst : Bool} {below : List Address} {a : Address} :
    a ∈ withRoot rootFirst below ↔ a = [] ∨ a ∈ below := by
  unfold withRoot
  split_ifs
  · exact List.mem_cons
  · rw [List.mem_append, List.mem_singleton, or_comm]

theorem mem_under {orders : List (List Address)} {i : Nat} {a : Address} :
    a ∈ under i orders ↔ ∃ j as b, orders[j]? = some as ∧ b ∈ as ∧ a = (i + j) :: b := by
  induction orders generalizing i with
  | nil => simp [under]
  | cons as more ih =>
    rw [under, List.mem_append, List.mem_map, ih]
    constructor
    · rintro (⟨b, hb, rfl⟩ | ⟨j, bs, b, hj, hb, rfl⟩)
      · exact ⟨0, as, b, rfl, hb, rfl⟩
      · exact ⟨j + 1, bs, b, hj, hb, by congr 1; omega⟩
    · rintro ⟨_ | j, bs, b, hj, hb, rfl⟩
      · cases hj
        exact .inl ⟨b, hb, rfl⟩
      · exact .inr ⟨j, bs, b, hj, hb, by congr 1; omega⟩

/-- A relation that goes on below a common number, and holds where a smaller number stands before a
greater one, holds in the trees together if it does in each. -/
theorem pairwise_under {r : Address → Address → Prop} (hcons : ∀ i a b, r a b → r (i :: a) (i :: b))
    (hlt : ∀ i j a b, i < j → r (i :: a) (j :: b)) {orders : List (List Address)}
    (h : ∀ as ∈ orders, as.Pairwise r) (i : Nat) : (under i orders).Pairwise r := by
  induction orders generalizing i with
  | nil => exact .nil
  | cons as more ih =>
    obtain ⟨has, hmore⟩ := List.forall_mem_cons.1 h
    refine List.pairwise_append.2 ⟨?_, ih hmore (i + 1), ?_⟩
    · exact List.pairwise_map.2 (has.imp (hcons i _ _))
    · intro a ha b hb
      obtain ⟨a, -, rfl⟩ := List.mem_map.1 ha
      obtain ⟨j, -, b, -, -, rfl⟩ := mem_under.1 hb
      exact hlt _ _ _ _ (by omega)

/-- What is listed tree by tree is listed address by address, if it is so in each tree. -/
theorem flatMap_eq_map_under {β γ : Type} {list : β → List γ} {addresses : β → List Address}
    {entry : Address → γ} {i : Nat} {ts : List β}
    (h : ∀ j t, ts[j]? = some t → list t = (addresses t).map fun a => entry ((i + j) :: a)) :
    ts.flatMap list = (under i (ts.map addresses)).map entry := by
  induction ts generalizing i with
  | nil => rfl
  | cons t ts ih =>
    have hrest : ts.flatMap list = (under (i + 1) (ts.map addresses)).map entry := by
      apply ih
      intro j u hu
      rw [h (j + 1) u hu, Nat.add_right_comm i 1 j]
      rfl
    rw [List.flatMap_cons, hrest, h 0 t rfl, List.map_cons, under, List.map_append, List.map_map]
    rfl

end Address

namespace Node

/-- The addresses in a tree, with that of each node in front of those below it or behind them. -/
def addresses (rootFirst : Bool) : {c : Category} → Node α c → List Address
  | _, .identifier _ => Address.withRoot rootFirst []
  | _, .group body => Address.withRoot rootFirst (Address.under 0 [body.addresses rootFirst])
  | _, .foreign _ => Address.withRoot rootFirst []
  | _, .bare term => Address.withRoot rootFirst (Address.under 0 [term.addresses rootFirst])
  | _, .negation operand =>
    Address.withRoot rootFirst (Address.under 0 [operand.addresses rootFirst])
  | _, .compound _ left right =>
    Address.withRoot rootFirst
      (Address.under 0 [left.addresses rootFirst, right.addresses rootFirst])

end Node

namespace AnyNode

theorem addresses_eq (rootFirst : Bool) (t : AnyNode α) :
    t.node.addresses rootFirst = Address.withRoot rootFirst
      (Address.under 0 (t.children.map fun u => u.node.addresses rootFirst)) := by
  obtain ⟨c, t⟩ := t
  cases t <;> rfl

theorem mem_addresses_iff {rootFirst : Bool} (t : AnyNode α) {a : Address} :
    a ∈ t.node.addresses rootFirst ↔ (t.at? a).isSome = true := by
  induction t using induction_on_children generalizing a with
  | step t ih =>
    rw [addresses_eq, Address.mem_withRoot, Address.mem_under]
    rcases a with _ | ⟨i, a⟩
    · simp [at?]
    · have hbelow : (∃ j as b, (t.children.map fun u => u.node.addresses rootFirst)[j]? = some as ∧
          b ∈ as ∧ i :: a = (0 + j) :: b) ↔ ∃ u, t.children[i]? = some u ∧ (u.at? a).isSome := by
        constructor
        · rintro ⟨j, as, b, hj, hb, heq⟩
          obtain ⟨rfl, rfl⟩ : i = 0 + j ∧ a = b := by simpa using heq
          rw [List.getElem?_map, Option.map_eq_some_iff] at hj
          obtain ⟨u, hu, rfl⟩ := hj
          rw [Nat.zero_add]
          exact ⟨u, hu, (ih u (List.mem_of_getElem? hu)).1 hb⟩
        · rintro ⟨u, hu, ha⟩
          refine ⟨i, _, a, ?_, (ih u (List.mem_of_getElem? hu)).2 ha, by rw [Nat.zero_add]⟩
          rw [List.getElem?_map, hu]
          rfl
      rw [hbelow, at?]
      cases t.children[i]? <;> simp

/-- The pre-order is that of the nodes at the addresses. The depth of a node is the length of its
address. -/
theorem map_some_preorder (t : AnyNode α) (depth : Nat) :
    (t.node.preorder depth).map some =
      (t.node.addresses true).map fun a => (t.at? a).map (·, depth + a.length) := by
  induction t using induction_on_children generalizing depth with
  | step t ih =>
    rw [preorder_eq, addresses_eq]
    show some (t, depth) :: List.map some _ = some (t, depth + 0) :: List.map _ _
    rw [List.map_flatMap, Nat.add_zero]
    congr 1
    apply Address.flatMap_eq_map_under
    intro j u hu
    rw [ih u (List.mem_of_getElem? hu)]
    simp [at?, hu, Nat.add_assoc, Nat.add_comm 1]

theorem map_some_postorder (t : AnyNode α) :
    t.node.postorder.map some = (t.node.addresses false).map t.at? := by
  induction t using induction_on_children with
  | step t ih =>
    rw [postorder_eq, addresses_eq]
    show List.map some (_ ++ [t]) = List.map t.at? (_ ++ [[]])
    rw [List.map_append, List.map_append, List.map_flatMap]
    congr 1
    apply Address.flatMap_eq_map_under
    intro j u hu
    rw [ih u (List.mem_of_getElem? hu)]
    simp [at?, hu]

/-- In pre-order the addresses increase as the words of a dictionary do. -/
theorem pairwise_lt_addresses (t : AnyNode α) : (t.node.addresses true).Pairwise (· < ·) := by
  induction t using induction_on_children with
  | step t ih =>
    rw [addresses_eq]
    refine List.pairwise_cons.2 ⟨fun a ha => ?_, ?_⟩
    · obtain ⟨j, -, b, -, -, rfl⟩ := Address.mem_under.1 ha
      exact List.nil_lt_cons _ _
    · apply Address.pairwise_under
      · exact fun i a b h => List.cons_lt_cons_iff.2 (.inr ⟨rfl, h⟩)
      · exact fun i j a b h => List.cons_lt_cons_iff.2 (.inl h)
      · exact List.forall_mem_map.2 ih

/-- In post-order no address comes before one that goes on from it. -/
theorem pairwise_not_prefix_addresses (t : AnyNode α) :
    (t.node.addresses false).Pairwise fun a b => ¬ a <+: b := by
  induction t using induction_on_children with
  | step t ih =>
    rw [addresses_eq]
    refine List.pairwise_append.2 ⟨?_, List.pairwise_singleton _ _, ?_⟩
    · apply Address.pairwise_under
      · exact fun i a b h hprefix => h (List.cons_prefix_cons.1 hprefix).2
      · intro i j a b h hprefix
        have := (List.cons_prefix_cons.1 hprefix).1
        omega
      · exact List.forall_mem_map.2 ih
    · intro a ha b hb
      obtain ⟨j, -, c, -, -, rfl⟩ := Address.mem_under.1 ha
      rw [List.mem_singleton.1 hb, List.prefix_nil]
      exact List.cons_ne_nil _ _

theorem postorder_perm (t : AnyNode α) (depth : Nat) :
    t.node.postorder.Perm ((t.node.preorder depth).map Prod.fst) := by
  have hfirst : (t.node.addresses true).Nodup := by
    apply t.pairwise_lt_addresses.imp
    rintro a _ hlt rfl
    exact List.lt_irrefl a hlt
  have hlast : (t.node.addresses false).Nodup := by
    apply t.pairwise_not_prefix_addresses.imp
    rintro a _ hprefix rfl
    exact hprefix (List.prefix_refl a)
  have haddresses : (t.node.addresses false).Perm (t.node.addresses true) :=
    (List.perm_ext_iff_of_nodup hlast hfirst).2 fun a =>
      t.mem_addresses_iff.trans t.mem_addresses_iff.symm
  have hnodes : ((t.node.preorder depth).map Prod.fst).map some =
      (t.node.addresses true).map t.at? := by
    have := congrArg (List.map (Option.map Prod.fst)) (t.map_some_preorder depth)
    simpa [Function.comp_def] using this
  apply (List.map_perm_map_iff fun _ _ h => Option.some.inj h).1
  rw [t.map_some_postorder, hnodes]
  exact haddresses.map _

end AnyNode

end Propositional
