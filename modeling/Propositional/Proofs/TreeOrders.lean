import Mathlib.Logic.Function.Iterate
import Mathlib.Order.Bounds.Basic
import Propositional.Proofs.Addresses
import Propositional.Proofs.Measures

/-!
# The orders of the two traversals

A traversal is a loop with a stack of what is pending. For the tree of a formula, where every node
shows its children, the loop is followed here pass by pass.

1. A pass keeps the order of what is visited and of what is still to be visited (`walkOrder`,
   `bottomUpOrder`), and leaves one pass less to be made (`pendingSize`, `Pending.totalSteps`).
2. `iterate_pass`: so the loop ends after as many passes as this measure tells at the start, and
   then has delivered the order of the tree.

`walksInPreorder` and `releasesBottomUp` say what this makes of walks and of the release of a tree:
each address is visited once, in front of all below it or behind them.
-/

namespace Propositional

/-! ## Loops with a stack -/

/-- The state of a loop with a stack: what it has delivered, the last item first, and what is
pending, the top of the stack first. -/
structure Loop (β π : Type) where
  delivered : List β
  pending : List π

/-- Where each pass takes one from what is left and keeps an order, any number of passes takes as
many and keeps it. -/
theorem iterate_pass {σ β : Type} {pass : σ → σ} (left : σ → Nat) (order : σ → β)
    (hleft : ∀ s, left (pass s) = left s - 1) (horder : ∀ s, order (pass s) = order s)
    (n : Nat) (s : σ) : left (pass^[n] s) = left s - n ∧ order (pass^[n] s) = order s := by
  induction n generalizing s with
  | zero => exact ⟨rfl, rfl⟩
  | succ n ih =>
    obtain ⟨hmany, hsame⟩ := ih (pass s)
    rw [Function.iterate_succ_apply, hmany, hsame, hleft, horder]
    exact ⟨by omega, rfl⟩

namespace AnyNode

variable {α : Type}

theorem size_pos (t : AnyNode α) : 0 < t.size := by
  have := t.size_eq
  omega

theorem totalSize_eq_zero_iff {ts : List (AnyNode α)} : totalSize ts = 0 ↔ ts = [] := by
  rcases ts with _ | ⟨t, ts⟩
  · simp [totalSize]
  · have := t.size_pos
    simp only [totalSize, reduceCtorEq, iff_false]
    omega

end AnyNode

/-! ## Walks -/

/-- A pass of the loop of a walk: the node on top of the stack is visited, and its children come on
the stack in its place. A loop with nothing pending has ended. -/
def walkPass : Loop (AnyNode Empty × Nat) (AnyNode Empty × Nat) →
    Loop (AnyNode Empty × Nat) (AnyNode Empty × Nat)
  | ⟨visited, []⟩ => ⟨visited, []⟩
  | ⟨visited, (t, depth) :: rest⟩ =>
    ⟨(t, depth) :: visited, t.children.map (·, depth + 1) ++ rest⟩

/-- The nodes that a walk has visited and those that it will visit. -/
def walkOrder (s : Loop (AnyNode Empty × Nat) (AnyNode Empty × Nat)) : List (AnyNode Empty × Nat) :=
  s.delivered.reverse ++ s.pending.flatMap fun p => p.1.node.preorder p.2

section Walk

variable (s : Loop (AnyNode Empty × Nat) (AnyNode Empty × Nat))

theorem walkFrom_walkPass :
    walkFrom (walkPass s).delivered (walkPass s).pending = walkFrom s.delivered s.pending := by
  obtain ⟨visited, _ | ⟨⟨t, depth⟩, rest⟩⟩ := s
  · rfl
  · conv_rhs => rw [walkFrom]
    split
    · rename_i e h
      exact e.elim
    · rename_i ts h
      obtain rfl := AnyNode.children_of_children? h
      rfl

theorem walkOrder_walkPass : walkOrder (walkPass s) = walkOrder s := by
  obtain ⟨visited, _ | ⟨⟨t, depth⟩, rest⟩⟩ := s
  · rfl
  · simp only [walkOrder, walkPass]
    rw [List.flatMap_cons, t.preorder_eq, List.flatMap_append, List.flatMap_map]
    simp

theorem pendingSize_walkPass : pendingSize (walkPass s).pending = pendingSize s.pending - 1 := by
  obtain ⟨visited, _ | ⟨⟨t, depth⟩, rest⟩⟩ := s
  · rfl
  · have hchildren : (t.children.map (·, depth + 1)).map Prod.fst = t.children := by
      simp [Function.comp_def]
    show AnyNode.totalSize (List.map Prod.fst (_ ++ rest)) =
      t.size + AnyNode.totalSize (rest.map Prod.fst) - 1
    rw [List.map_append, hchildren, AnyNode.totalSize_append, t.size_eq]
    omega

theorem pendingSize_eq_zero_iff {pending : List (AnyNode Empty × Nat)} :
    pendingSize pending = 0 ↔ pending = [] := by
  rw [pendingSize, AnyNode.totalSize_eq_zero_iff, List.map_eq_nil_iff]

end Walk

/-- What a walk over the tree of a formula is. -/
structure WalksInPreorder (t : AnyNode Empty) : Prop where
  /-- The loop ends, after one pass for each node. -/
  passes : ∀ n, (walkPass^[n] ⟨[], [(t, 0)]⟩).pending = [] ↔ t.size ≤ n
  /-- By then it has visited the nodes in pre-order. -/
  visited : (walkPass^[t.size] ⟨[], [(t, 0)]⟩).delivered.reverse = t.node.preorder 0
  /-- This is what a walk delivers. -/
  walk : t.node.walk = ⟨t.node.preorder 0, none⟩
  /-- There are as many visits as the tree has nodes. -/
  count : (t.node.preorder 0).length = t.size ∧ t.node.count = .ok t.size
  /-- The depth of the tree is its height. -/
  depth : t.node.depth = .ok t.node.height
  /-- Each address is visited once, in the order of a dictionary. The depth of a node is the length
  of its address, and the height of the tree is the greatest of these lengths. -/
  addresses : ∃ addresses : List Address, addresses.Pairwise (· < ·) ∧
    (∀ a, a ∈ addresses ↔ (t.at? a).isSome = true) ∧
    t.node.walk.items.map some = addresses.map (fun a => (t.at? a).map (·, a.length)) ∧
    IsGreatest {n | ∃ a ∈ addresses, a.length = n} t.node.height

theorem isGreatest_height {α : Type} (t : AnyNode α) :
    IsGreatest {n | ∃ a ∈ t.node.addresses true, a.length = n} t.node.height := by
  have horder := t.map_some_preorder 0
  refine ⟨?_, ?_⟩
  · obtain ⟨v, hv, hdepth⟩ := t.node.exists_mem_preorder 0
    have hmem : some v ∈ (t.node.preorder 0).map some := List.mem_map_of_mem hv
    rw [horder] at hmem
    obtain ⟨a, ha, hnode⟩ := List.mem_map.1 hmem
    obtain ⟨u, -, rfl⟩ := Option.map_eq_some_iff.1 hnode
    simp only [Nat.zero_add] at hdepth
    exact ⟨a, ha, hdepth⟩
  · rintro _ ⟨a, ha, rfl⟩
    obtain ⟨u, hu⟩ := Option.isSome_iff_exists.1 (t.mem_addresses_iff.1 ha)
    have hmem : some (u, a.length) ∈ (t.node.preorder 0).map some := by
      rw [horder]
      exact List.mem_map.2 ⟨a, ha, by rw [hu, Nat.zero_add]; rfl⟩
    obtain ⟨v, hv, heq⟩ := List.mem_map.1 hmem
    obtain rfl := Option.some.inj heq
    have := t.node.le_of_mem_preorder 0 _ hv
    rwa [Nat.zero_add] at this

/-- A walk is the pre-order by recursion: a node, and then its children from left to right, each one
deeper than the node and with all below it. Its loop ends, it visits every address once, and the
depths are the true ones. -/
theorem walksInPreorder :
    (∀ (t : AnyNode Empty) (depth : Nat), t.node.preorder depth =
      (t, depth) :: t.children.flatMap fun u => u.node.preorder (depth + 1)) ∧
    (∀ s, walkFrom (walkPass s).delivered (walkPass s).pending =
      walkFrom s.delivered s.pending) ∧
    ∀ t : AnyNode Empty, WalksInPreorder t := by
  refine ⟨fun t depth => t.preorder_eq depth, walkFrom_walkPass, fun t => ?_⟩
  have hpass := fun n => iterate_pass (fun s => pendingSize s.pending) walkOrder
    pendingSize_walkPass walkOrder_walkPass n ⟨[], [(t, 0)]⟩
  have hstart : pendingSize [(t, 0)] = t.size := by simp [pendingSize, AnyNode.totalSize]
  have hends : ∀ n, (walkPass^[n] ⟨[], [(t, 0)]⟩).pending = [] ↔ t.size ≤ n := by
    intro n
    rw [← pendingSize_eq_zero_iff, (hpass n).1, hstart]
    omega
  have hwalk := Node.walk_of_foreigners t.node.foreigners_eq_nil
  exact {
    passes := hends
    visited := by
      have horder := (hpass t.size).2
      rw [walkOrder, (hends t.size).2 le_rfl] at horder
      simpa [walkOrder] using horder
    walk := hwalk
    count := ⟨t.node.length_preorder 0, t.node.count_eq.trans (t.node.unlessForeign_foreigners _)⟩
    depth := t.node.depth_eq.trans (t.node.unlessForeign_foreigners _)
    addresses := by
      refine ⟨t.node.addresses true, t.pairwise_lt_addresses, fun a => t.mem_addresses_iff, ?_,
        isGreatest_height t⟩
      rw [hwalk, t.map_some_preorder 0]
      simp }

/-! ## Release -/

/-- A pass of the loop of a traversal bottom-up. A node that is entered comes back on the stack, to
be left when its children above it are done. A loop with nothing pending has ended. -/
def bottomUpPass : Loop (AnyNode Empty) (Pending Empty) → Loop (AnyNode Empty) (Pending Empty)
  | ⟨left, []⟩ => ⟨left, []⟩
  | ⟨left, .leave t :: rest⟩ => ⟨t :: left, rest⟩
  | ⟨left, .enter t :: rest⟩ => ⟨left, t.children.map .enter ++ .leave t :: rest⟩

/-- The nodes that a traversal bottom-up has left and those that it will leave. -/
def bottomUpOrder (s : Loop (AnyNode Empty) (Pending Empty)) : List (AnyNode Empty) :=
  s.delivered.reverse ++ s.pending.flatMap Pending.order

section BottomUp

variable (s : Loop (AnyNode Empty) (Pending Empty))

theorem bottomUpFrom_bottomUpPass :
    bottomUpFrom (bottomUpPass s).delivered (bottomUpPass s).pending =
      bottomUpFrom s.delivered s.pending := by
  obtain ⟨left, _ | ⟨t | t, rest⟩⟩ := s
  · rfl
  · conv_rhs => rw [bottomUpFrom]
    split
    · rename_i e h
      exact e.elim
    · rename_i ts h
      obtain rfl := AnyNode.children_of_children? h
      rfl
  · conv_rhs => rw [bottomUpFrom]
    rfl

theorem bottomUpOrder_bottomUpPass : bottomUpOrder (bottomUpPass s) = bottomUpOrder s := by
  obtain ⟨left, _ | ⟨t | t, rest⟩⟩ := s
  · rfl
  · simp only [bottomUpOrder, bottomUpPass]
    rw [List.flatMap_cons, Pending.order, t.postorder_eq, List.flatMap_append, List.flatMap_map]
    simp [Pending.order]
  · simp [bottomUpOrder, bottomUpPass, Pending.order]

theorem totalSteps_bottomUpPass :
    Pending.totalSteps (bottomUpPass s).pending = Pending.totalSteps s.pending - 1 := by
  obtain ⟨left, _ | ⟨t | t, rest⟩⟩ := s
  · rfl
  · show Pending.totalSteps (t.children.map .enter ++ .leave t :: rest) =
      2 * t.size + Pending.totalSteps rest - 1
    have := t.size_eq
    rw [Pending.totalSteps_append, Pending.totalSteps_enter, Pending.totalSteps, Pending.steps]
    omega
  · show Pending.totalSteps rest = 1 + Pending.totalSteps rest - 1
    omega

theorem Pending.totalSteps_eq_zero_iff {pending : List (Pending Empty)} :
    totalSteps pending = 0 ↔ pending = [] := by
  rcases pending with _ | ⟨t | t, rest⟩
  · simp [totalSteps]
  · have := t.size_pos
    simp only [totalSteps, steps, reduceCtorEq, iff_false]
    omega
  · simp only [totalSteps, steps, reduceCtorEq, iff_false]
    omega

end BottomUp

/-- What the release of the tree of a formula is. -/
structure ReleasesBottomUp (t : AnyNode Empty) : Prop where
  /-- The loop ends, after two passes for each node. -/
  passes : ∀ n, (bottomUpPass^[n] ⟨[], [.enter t]⟩).pending = [] ↔ 2 * t.size ≤ n
  /-- By then it has left the nodes in post-order. -/
  left : (bottomUpPass^[2 * t.size] ⟨[], [.enter t]⟩).delivered.reverse = t.node.postorder
  /-- This is what a traversal bottom-up delivers. -/
  bottomUp : t.node.bottomUp = ⟨t.node.postorder, none⟩
  /-- So the nodes are released in this order, and as many of them as are counted. -/
  teardown : ∀ {σ : Type} (release : σ → AnyNode Empty → σ) (start : σ),
    t.node.teardown release start = (t.node.postorder.foldl release start, t.node.count)
  /-- All nodes are counted. -/
  count : t.node.count = .ok t.node.postorder.length
  /-- Each address is released once, behind all those below it, and that of the root last. -/
  addresses : ∃ addresses : List Address, addresses.Pairwise (fun a b => ¬ a <+: b) ∧
    (∀ a, a ∈ addresses ↔ (t.at? a).isSome = true) ∧
    t.node.postorder.map some = addresses.map t.at? ∧ addresses.getLast? = some []
  /-- The nodes that are released are those that a walk visits, each as often. -/
  walk : t.node.postorder.Perm (t.node.walk.items.map Prod.fst)

/-- A traversal bottom-up is the post-order by recursion: the children of a node from left to right,
each with all below it, and then the node. Its loop ends, and a tree that is torn down is released
in this order, each address once. -/
theorem releasesBottomUp :
    (∀ t : AnyNode Empty,
      t.node.postorder = t.children.flatMap (fun u => u.node.postorder) ++ [t]) ∧
    (∀ s, bottomUpFrom (bottomUpPass s).delivered (bottomUpPass s).pending =
      bottomUpFrom s.delivered s.pending) ∧
    ∀ t : AnyNode Empty, ReleasesBottomUp t := by
  refine ⟨fun t => t.postorder_eq, bottomUpFrom_bottomUpPass, fun t => ?_⟩
  have hpass := fun n => iterate_pass (fun s => Pending.totalSteps s.pending) bottomUpOrder
    totalSteps_bottomUpPass bottomUpOrder_bottomUpPass n ⟨[], [.enter t]⟩
  have hstart : Pending.totalSteps [.enter t] = 2 * t.size := rfl
  have hends : ∀ n, (bottomUpPass^[n] ⟨[], [.enter t]⟩).pending = [] ↔ 2 * t.size ≤ n := by
    intro n
    rw [← Pending.totalSteps_eq_zero_iff, (hpass n).1, hstart]
    omega
  have hnone := t.node.foreigners_eq_nil
  have hbottomUp := Node.bottomUp_of_foreigners hnone
  have hcount : t.node.count = .ok t.node.postorder.length := by
    rw [t.node.count_eq, t.node.unlessForeign_foreigners, t.node.length_postorder]
  exact {
    passes := hends
    left := by
      have horder := (hpass (2 * t.size)).2
      rw [bottomUpOrder, (hends (2 * t.size)).2 le_rfl] at horder
      simpa [bottomUpOrder, Pending.order] using horder
    bottomUp := hbottomUp
    teardown := by
      intro σ release start
      rw [Node.teardown, hbottomUp, hcount]
      rfl
    count := hcount
    addresses := by
      refine ⟨t.node.addresses false, t.pairwise_not_prefix_addresses,
        fun a => t.mem_addresses_iff, t.map_some_postorder, ?_⟩
      rw [t.addresses_eq]
      exact List.getLast?_concat
    walk := by
      rw [Node.walk_of_foreigners hnone]
      exact t.postorder_perm 0 }

end Propositional
