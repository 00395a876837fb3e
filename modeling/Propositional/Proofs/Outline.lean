import Propositional.Proofs.Canonical
import Propositional.Proofs.Lines
import Propositional.Proofs.Measures

/-!
# The outline determines the tree

The outline of a tree has one line for each node in pre-order: tabs for the depth, and the label of
the node. The label tells how many children a node has, so the list of lines is read back like a
term in prefix notation (`Node.rows_append_inj`). The lines are read off the text because no label
holds a line feed, whatever the name of an identifier (`Node.newline_notMem_title`).

`outline_determines_tree`: two outlines are the same exactly if the trees are, and the lines are
those of a walk over the tree.
-/

namespace Propositional

namespace Node

variable {c : Category}

/-! ## Titles -/

/-- The label of a node in the tree of a formula, which always has one. -/
def title (t : Node Empty c) : Text :=
  match t.label with
  | .ok label => label
  | .error e => e.elim

theorem label_eq (t : Node Empty c) : t.label = .ok t.title := by
  unfold title
  cases t.label with
  | ok label => rfl
  | error e => exact e.elim

theorem newline_notMem_title (t : Node Empty c) : '\n' ∉ t.title := by
  cases t with
  | identifier n =>
    have hname : '\n' ∉ n.text := by
      intro h
      have halnum := List.all_eq_true.1 n.alphanumeric '\n' h
      exact absurd halnum (by decide)
    simp [title, label, hname]
  | foreign e => exact e.elim
  | compound op left right => cases op <;> simp [title, label, Connective.sign]
  | _ => simp [title, label]

theorem title_identifier_inj {n m : Name}
    (h : (Node.identifier n : Node Empty _).title = (Node.identifier m : Node Empty _).title) :
    n = m := by
  have htext : n.text = m.text := by simpa [title, label] using h
  exact Name.text_inj.1 htext

theorem title_compound_inj {op op' : Connective} {left right left' right' : Term}
    (h : (Node.compound op left right).title = (Node.compound op' left' right').title) :
    op = op' := by
  have hsign : op.sign = op'.sign := by simpa [title, label] using h
  revert hsign
  cases op <;> cases op' <;> decide

end Node

/-! ## Rows -/

/-- The line of a node at a depth, without its end. -/
def outlineRow (visit : AnyNode Empty × Nat) : Text :=
  List.replicate visit.2 '\t' ++ visit.1.node.title

theorem newline_notMem_outlineRow (visit : AnyNode Empty × Nat) : '\n' ∉ outlineRow visit := by
  unfold outlineRow
  rw [List.mem_append, List.mem_replicate]
  rintro (⟨-, h⟩ | h)
  · exact absurd h (by decide)
  · exact visit.1.node.newline_notMem_title h

namespace Node

variable {c : Category}

theorem title_eq_of_rows {t u : AnyNode Empty} {depth : Nat} {rows rows' : List Text}
    (h : outlineRow (t, depth) :: rows = outlineRow (u, depth) :: rows') :
    t.node.title = u.node.title ∧ rows = rows' := by
  obtain ⟨hrow, hrows⟩ := List.cons.inj h
  exact ⟨List.append_cancel_left hrow, hrows⟩

theorem any_inj {t u : Node Empty c} (h : t.any = u.any) : t = u := by
  simpa [any] using h

/-- The rows of two trees that begin at the same place of a list are those of one tree, and end at
the same place. -/
theorem rows_append_inj : {c c' : Category} → (t : Node Empty c) → (u : Node Empty c') →
    {depth : Nat} → {rows rows' : List Text} →
    (t.preorder depth).map outlineRow ++ rows = (u.preorder depth).map outlineRow ++ rows' →
      t.any = u.any ∧ rows = rows'
  | _, _, .identifier n, u, depth, rows, rows' => by
    intro h
    cases u with
    | identifier m =>
      obtain ⟨htitle, hrows⟩ := title_eq_of_rows h
      rw [title_identifier_inj htitle]
      exact ⟨rfl, hrows⟩
    | foreign e => exact e.elim
    | _ => exact absurd (title_eq_of_rows h).1 (by simp [any, title, label])
  | _, _, .group body, u, depth, rows, rows' => by
    intro h
    cases u with
    | group other =>
      obtain ⟨-, hbelow⟩ := title_eq_of_rows h
      obtain ⟨hbody, hrows⟩ := body.rows_append_inj other hbelow
      rw [any_inj hbody]
      exact ⟨rfl, hrows⟩
    | foreign e => exact e.elim
    | _ => exact absurd (title_eq_of_rows h).1 (by simp [any, title, label])
  | _, _, .foreign e, _, _, _, _ => e.elim
  | _, _, .bare term, u, depth, rows, rows' => by
    intro h
    cases u with
    | bare other =>
      obtain ⟨-, hbelow⟩ := title_eq_of_rows h
      obtain ⟨hterm, hrows⟩ := term.rows_append_inj other hbelow
      rw [any_inj hterm]
      exact ⟨rfl, hrows⟩
    | foreign e => exact e.elim
    | _ => exact absurd (title_eq_of_rows h).1 (by simp [any, title, label])
  | _, _, .negation operand, u, depth, rows, rows' => by
    intro h
    cases u with
    | negation other =>
      obtain ⟨-, hbelow⟩ := title_eq_of_rows h
      obtain ⟨hoperand, hrows⟩ := operand.rows_append_inj other hbelow
      rw [any_inj hoperand]
      exact ⟨rfl, hrows⟩
    | foreign e => exact e.elim
    | _ => exact absurd (title_eq_of_rows h).1 (by simp [any, title, label])
  | _, _, .compound op left right, u, depth, rows, rows' => by
    intro h
    cases u with
    | compound op' left' right' =>
      simp only [preorder, List.map_cons, List.map_append, List.cons_append,
        List.append_assoc] at h
      obtain ⟨htitle, hbelow⟩ := title_eq_of_rows h
      obtain ⟨hleft, hbehind⟩ := left.rows_append_inj left' hbelow
      obtain ⟨hright, hrows⟩ := right.rows_append_inj right' hbehind
      rw [title_compound_inj htitle, any_inj hleft, any_inj hright]
      exact ⟨rfl, hrows⟩
    | foreign e => exact e.elim
    | _ => exact absurd (title_eq_of_rows h).1 (by simp [any, title, label])

/-! ## Outlines -/

theorem outline_eq_ofLines (t : Node Empty c) :
    t.outline = .ok (Text.ofLines ((t.preorder 0).map outlineRow)) := by
  have hline : ∀ visit : AnyNode Empty × Nat,
      outlineLine visit = .ok (outlineRow visit ++ ['\n']) := by
    intro visit
    rw [outlineLine, visit.1.node.label_eq]
    rfl
  have hlines : ∀ visits : List (AnyNode Empty × Nat),
      visits.mapM outlineLine = .ok (visits.map fun visit => outlineRow visit ++ ['\n']) := by
    intro visits
    induction visits with
    | nil => rfl
    | cons visit visits ih =>
      rw [List.mapM_cons, hline, ih]
      rfl
  rw [outline, gather_walk, foreigners_eq_nil, hlines, Text.ofLines, List.flatMap_map]
  rfl

end Node

theorem compare_equal_iff (t u : AnyNode Empty) :
    (Key.compare (.node t.node.embed.any) (.node u.node.embed.any)).equal = true ↔ t = u := by
  show decide (_ = _) = true ↔ t = u
  rw [decide_eq_true_eq]
  refine ⟨fun h => ?_, fun h => by rw [h]⟩
  obtain ⟨c, t⟩ := t
  obtain ⟨c', u⟩ := u
  have hnode := Key.node.inj h
  obtain rfl : c = c' := congrArg AnyNode.category hnode
  have hembed : (t.embed : Node Stray c) = u.embed := by simpa [Node.any] using hnode
  rw [Node.map_injective (fun e => e.elim) t u hembed]

theorem outline_injective {t u : AnyNode Empty} (h : t.node.outline = u.node.outline) : t = u := by
  rw [Node.outline_eq_ofLines, Node.outline_eq_ofLines] at h
  have hrows := Text.ofLines_injective
    (List.forall_mem_map.2 fun visit _ => newline_notMem_outlineRow visit)
    (List.forall_mem_map.2 fun visit _ => newline_notMem_outlineRow visit) (Except.ok.inj h)
  have happend : (t.node.preorder 0).map outlineRow ++ [] =
      (u.node.preorder 0).map outlineRow ++ [] := by rw [hrows]
  exact (t.node.rows_append_inj u.node happend).1

/-- Two trees have the same outline exactly if a comparison finds them equal, that is, if they are
the same tree. The outline has as many lines as the tree has nodes. Each of them ends with a line
feed and holds no other; it is as many tabs as the depth of the node that a walk comes to at its
turn, and the label of this node. -/
theorem outline_determines_tree :
    (∀ t u : AnyNode Empty, (t.node.outline = u.node.outline ↔ t = u) ∧
      (t.node.outline = u.node.outline ↔
        (Key.compare (.node t.node.embed.any) (.node u.node.embed.any)).equal = true)) ∧
    ∀ t : AnyNode Empty, ∃ lines : List Text, t.node.outline = .ok (Text.ofLines lines) ∧
      (∀ line ∈ lines, '\n' ∉ line) ∧ t.node.count = .ok lines.length ∧
      t.node.walk.failure = none ∧ t.node.walk.items.length = lines.length ∧
      ∀ (i : Nat) (node : AnyNode Empty) (depth : Nat),
        t.node.walk.items[i]? = some (node, depth) → ∃ label, node.node.label = .ok label ∧
          lines[i]? = some (List.replicate depth '\t' ++ label) := by
  refine ⟨fun t u => ?_, fun t => ?_⟩
  · have hinj : t.node.outline = u.node.outline ↔ t = u :=
      ⟨outline_injective, fun h => by rw [h]⟩
    exact ⟨hinj, hinj.trans (compare_equal_iff t u).symm⟩
  · have hnone := t.node.foreigners_eq_nil
    have hwalk := Node.walk_of_foreigners hnone
    refine ⟨(t.node.preorder 0).map outlineRow, t.node.outline_eq_ofLines,
      List.forall_mem_map.2 fun visit _ => newline_notMem_outlineRow visit, ?_, ?_, ?_, ?_⟩
    · rw [Node.count_eq, hnone, List.length_map, Node.length_preorder]
      rfl
    · rw [hwalk]
    · rw [hwalk, List.length_map]
    · intro i node depth hi
      rw [hwalk] at hi
      refine ⟨node.node.title, node.node.label_eq, ?_⟩
      rw [List.getElem?_map, hi]
      rfl

/-- The outline of `!(a>a)` has five lines, the third of which is that of the connective, and it is
not the outline of `!a`. -/
theorem outline_negatedGroup :
    (∃ lines : List Text, Formula.negatedGroup.outline = .ok (Text.ofLines lines) ∧
      lines.length = 5 ∧ lines[2]? = some "\t\tP: S_left → S_right".toList) ∧
    Formula.negatedGroup.outline ≠
      (Node.negation (.identifier Progress.someName) : Formula).outline := by
  obtain ⟨hinj, hlines⟩ := outline_determines_tree
  obtain ⟨lines, houtline, -, hcount, -, -, hrows⟩ := hlines Formula.negatedGroup.any
  have hwalk : Formula.negatedGroup.walk = ⟨Formula.negatedGroup.preorder 0, none⟩ :=
    Node.walk_of_foreigners rfl
  have hvisit : Formula.negatedGroup.any.node.walk.items[2]? = some
      ((Node.compound .implication (.identifier Progress.someName)
        (.identifier Progress.someName) : Formula).any, 2) := by
    show Formula.negatedGroup.walk.items[2]? = _
    rw [hwalk]
    rfl
  obtain ⟨label, hlabel, hrow⟩ := hrows 2 _ 2 hvisit
  refine ⟨⟨lines, houtline, ?_, ?_⟩, fun h => ?_⟩
  · have hfive : Formula.negatedGroup.any.node.count = .ok 5 := by
      rw [Node.count_eq]
      rfl
    rw [hfive] at hcount
    exact (Except.ok.inj hcount).symm
  · rw [hrow, ← Except.ok.inj hlabel]
    rfl
  · have hsame := (hinj Formula.negatedGroup.any (Node.negation _).any).1.1 h
    exact absurd hsame (by decide)

end Propositional
