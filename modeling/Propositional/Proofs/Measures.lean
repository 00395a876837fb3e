import Propositional.Node.Outline
import Propositional.Proofs.Traversal

/-!
# What the measures of a tree are

Each measure is read off a traversal. For a tree without foreign objects it is what recursion on
the tree gives: its size (`Node.count_eq`), its height (`Node.depth_eq`), the names of its
identifiers (`Node.identifiers_eq`), the number of its nodes again when it is released
(`Node.teardown_eq`), and its outline, one indented line for each node (`Node.outline_eq`). For a
tree with foreign objects each of them is the failure for the first one.
-/

namespace Propositional.Node

variable {α : Type} {c : Category}

/-! ## Sizes -/

theorem length_preorder : {c : Category} → (t : Node α c) → (depth : Nat) →
    (t.preorder depth).length = t.size
  | _, .identifier n, depth => rfl
  | _, .group body, depth => congrArg (· + 1) (body.length_preorder (depth + 1))
  | _, .foreign e, depth => rfl
  | _, .bare term, depth => congrArg (· + 1) (term.length_preorder (depth + 1))
  | _, .negation operand, depth => congrArg (· + 1) (operand.length_preorder (depth + 1))
  | _, .compound op left right, depth => by
    rw [preorder, List.length_cons, List.length_append, left.length_preorder,
      right.length_preorder]
    rfl

theorem length_postorder : {c : Category} → (t : Node α c) → t.postorder.length = t.size
  | _, .identifier n => rfl
  | _, .group body => by
    rw [postorder, List.length_append, body.length_postorder]
    rfl
  | _, .foreign e => rfl
  | _, .bare term => by
    rw [postorder, List.length_append, term.length_postorder]
    rfl
  | _, .negation operand => by
    rw [postorder, List.length_append, operand.length_postorder]
    rfl
  | _, .compound op left right => by
    rw [postorder, List.length_append, List.length_append, left.length_postorder,
      right.length_postorder]
    rfl

theorem count_eq (t : Node α c) : t.count = unlessForeign t.foreigners t.size := by
  rw [count, gather_walk, t.length_preorder]
  cases t.foreigners <;> rfl

/-- A tree is released in post-order up to the first foreign object, and counted in this way. -/
theorem teardown_eq {σ : Type} (release : σ → AnyNode α → σ) (start : σ) (t : Node α c) :
    t.teardown release start =
      ((Delivery.upTo AnyNode.foreign? t.postorder).items.foldl release start,
        unlessForeign t.foreigners t.size) := by
  rw [teardown, gather_bottomUp, t.length_postorder, ← bottomUp_eq_upTo]
  cases t.foreigners <;> rfl

/-! ## Depths -/

section Children

variable {t : AnyNode α} {depth n : Nat} {below : List (AnyNode α × Nat)}

theorem le_of_mem_cons (h : ∀ v ∈ below, v.2 ≤ depth + 1 + n) :
    ∀ v ∈ (t, depth) :: below, v.2 ≤ depth + (n + 1) := by
  refine List.forall_mem_cons.2 ⟨by simp, fun v hv => ?_⟩
  have := h v hv
  omega

theorem exists_mem_cons (h : ∃ v ∈ below, v.2 = depth + 1 + n) :
    ∃ v ∈ (t, depth) :: below, v.2 = depth + (n + 1) := by
  obtain ⟨v, hv, hdepth⟩ := h
  exact ⟨v, List.mem_cons_of_mem _ hv, by omega⟩

end Children

theorem le_of_mem_preorder : {c : Category} → (t : Node α c) → (depth : Nat) →
    ∀ v ∈ t.preorder depth, v.2 ≤ depth + t.height
  | _, .identifier n, depth => by simp [preorder, height]
  | _, .group body, depth => le_of_mem_cons (body.le_of_mem_preorder (depth + 1))
  | _, .foreign e, depth => by simp [preorder, height]
  | _, .bare term, depth => le_of_mem_cons (term.le_of_mem_preorder (depth + 1))
  | _, .negation operand, depth => le_of_mem_cons (operand.le_of_mem_preorder (depth + 1))
  | _, .compound op left right, depth => by
    refine le_of_mem_cons fun v hv => ?_
    obtain hv | hv := List.mem_append.1 hv
    · have := left.le_of_mem_preorder (depth + 1) v hv
      omega
    · have := right.le_of_mem_preorder (depth + 1) v hv
      omega

theorem exists_mem_preorder : {c : Category} → (t : Node α c) → (depth : Nat) →
    ∃ v ∈ t.preorder depth, v.2 = depth + t.height
  | _, .identifier n, depth => ⟨_, List.mem_cons_self, rfl⟩
  | _, .group body, depth => exists_mem_cons (body.exists_mem_preorder (depth + 1))
  | _, .foreign e, depth => ⟨_, List.mem_cons_self, rfl⟩
  | _, .bare term, depth => exists_mem_cons (term.exists_mem_preorder (depth + 1))
  | _, .negation operand, depth => exists_mem_cons (operand.exists_mem_preorder (depth + 1))
  | _, .compound op left right, depth => by
    refine exists_mem_cons ?_
    -- The deepest node is in the higher one of the operands.
    obtain hle | hle := Nat.le_total left.height right.height
    · obtain ⟨v, hv, hdepth⟩ := right.exists_mem_preorder (depth + 1)
      exact ⟨v, List.mem_append_right _ hv, by rw [hdepth, Nat.max_eq_right hle]⟩
    · obtain ⟨v, hv, hdepth⟩ := left.exists_mem_preorder (depth + 1)
      exact ⟨v, List.mem_append_left _ hv, by rw [hdepth, Nat.max_eq_left hle]⟩

theorem depth_eq (t : Node α c) : t.depth = unlessForeign t.foreigners t.height := by
  have hmax : ((t.preorder 0).map Prod.snd).max? = some t.height := by
    refine List.max?_eq_some_iff.2 ⟨?_, ?_⟩
    · obtain ⟨v, hv, hdepth⟩ := t.exists_mem_preorder 0
      exact List.mem_map.2 ⟨v, hv, by rw [hdepth, Nat.zero_add]⟩
    · rintro _ hd
      obtain ⟨v, hv, rfl⟩ := List.mem_map.1 hd
      rw [← Nat.zero_add t.height]
      exact t.le_of_mem_preorder 0 v hv
  rw [depth, gather_walk, hmax]
  cases t.foreigners <;> rfl

/-! ## Names -/

/-- The names of the identifiers of a tree from left to right. -/
def names : {c : Category} → Node α c → List Text
  | _, .identifier n => [n.text]
  | _, .group body => body.names
  | _, .foreign _ => []
  | _, .bare term => term.names
  | _, .negation operand => operand.names
  | _, .compound _ left right => left.names ++ right.names

theorem filterMap_name?_preorder : {c : Category} → (t : Node α c) → (depth : Nat) →
    (t.preorder depth).filterMap (fun v => v.1.node.name?) = t.names
  | _, .identifier n, depth => rfl
  | _, .group body, depth => body.filterMap_name?_preorder (depth + 1)
  | _, .foreign e, depth => rfl
  | _, .bare term, depth => term.filterMap_name?_preorder (depth + 1)
  | _, .negation operand, depth => operand.filterMap_name?_preorder (depth + 1)
  | _, .compound op left right, depth => by
    rw [preorder, List.filterMap_cons_none rfl, List.filterMap_append,
      left.filterMap_name?_preorder, right.filterMap_name?_preorder]
    rfl

/-- The identifiers of a tree are its names in increasing order, each once. -/
theorem identifiers_eq (t : Node α c) :
    t.identifiers = unlessForeign t.foreigners (Text.sortDistinct t.names) := by
  rw [identifiers, gather_walk, t.filterMap_name?_preorder]
  cases t.foreigners <;> rfl

/-! ## Outlines -/

/-- The lines of a tree whose root is at a depth. A foreign object has no line. -/
def indented (depth : Nat) : {c : Category} → Node α c → Text
  | _, .identifier n => List.replicate depth '\t' ++ "S: ID ".toList ++ n.text ++ ['\n']
  | _, .group body => List.replicate depth '\t' ++ "S: ( P )\n".toList ++ body.indented (depth + 1)
  | _, .foreign _ => []
  | _, .bare term => List.replicate depth '\t' ++ "P: S\n".toList ++ term.indented (depth + 1)
  | _, .negation operand =>
    List.replicate depth '\t' ++ "P: ¬S\n".toList ++ operand.indented (depth + 1)
  | _, .compound op left right =>
    List.replicate depth '\t' ++ "P: S_left ".toList ++ op.sign :: " S_right\n".toList ++
      left.indented (depth + 1) ++ right.indented (depth + 1)

theorem mapM_outlineLine_cons {v : AnyNode α × Nat} {vs : List (AnyNode α × Nat)} {label : Text}
    {lines : List Text} (hv : v.1.node.label = .ok label) (hvs : vs.mapM outlineLine = .ok lines) :
    (v :: vs).mapM outlineLine =
      .ok ((List.replicate v.2 '\t' ++ label ++ ['\n']) :: lines) := by
  have hline : outlineLine v = .ok (List.replicate v.2 '\t' ++ label ++ ['\n']) := by
    rw [outlineLine, hv]
  rw [List.mapM_cons, hline, hvs]
  rfl

theorem exists_mapM_outlineLine : {c : Category} → (t : Node α c) → (depth : Nat) →
    t.foreigners = [] → ∃ lines, (t.preorder depth).mapM outlineLine = .ok lines ∧
      lines.flatten = t.indented depth
  | _, .identifier n, depth, h => ⟨_, rfl, by simp [indented]⟩
  | _, .group body, depth, h => by
    obtain ⟨lines, hlines, hflatten⟩ := body.exists_mapM_outlineLine (depth + 1) h
    exact ⟨_, mapM_outlineLine_cons rfl hlines, by simp [hflatten, indented]⟩
  | _, .foreign e, depth, h => by cases h
  | _, .bare term, depth, h => by
    obtain ⟨lines, hlines, hflatten⟩ := term.exists_mapM_outlineLine (depth + 1) h
    exact ⟨_, mapM_outlineLine_cons rfl hlines, by simp [hflatten, indented]⟩
  | _, .negation operand, depth, h => by
    obtain ⟨lines, hlines, hflatten⟩ := operand.exists_mapM_outlineLine (depth + 1) h
    exact ⟨_, mapM_outlineLine_cons rfl hlines, by simp [hflatten, indented]⟩
  | _, .compound op left right, depth, h => by
    obtain ⟨hleft, hright⟩ := List.append_eq_nil_iff.1 h
    obtain ⟨lines, hlines, hflatten⟩ := left.exists_mapM_outlineLine (depth + 1) hleft
    obtain ⟨lines', hlines', hflatten'⟩ := right.exists_mapM_outlineLine (depth + 1) hright
    have happend : (left.preorder (depth + 1) ++ right.preorder (depth + 1)).mapM outlineLine =
        .ok (lines ++ lines') := by
      rw [List.mapM_append, hlines, hlines']
      rfl
    exact ⟨_, mapM_outlineLine_cons rfl happend, by simp [hflatten, hflatten', indented]⟩

theorem outline_eq (t : Node α c) : t.outline = unlessForeign t.foreigners (t.indented 0) := by
  rw [outline, gather_walk]
  cases h : t.foreigners with
  | nil =>
    obtain ⟨lines, hlines, hflatten⟩ := t.exists_mapM_outlineLine 0 h
    rw [hlines, ← hflatten]
    rfl
  | cons e es => rfl

end Propositional.Node
