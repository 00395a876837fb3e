import Mathlib.Data.Finset.Card
import Propositional.Node.Equality
import Propositional.Proofs.Outline
import Propositional.Proofs.SourceWords
import Propositional.Value.Workbench

/-!
# The inspected form determines the tree

The inspected form of a tree is the construction that makes it. No inspected form is the beginning
of another one (`Node.inspect_append_inj`): the head of a construction tells its shape, and the
operands end where the construction of each of them does; the commas between operands, which also
stand within them, need not be counted.

`inspect_decides_equality`: comparing two trees, node by node and shape by shape, comes to comparing
their inspected forms; and the distinct trees of a list are as many as their inspected forms.
-/

namespace Propositional

/-! ## Names in quotes -/

theorem Text.quotedChar_of_isAlphanum {quote c : Char} (hquote : quote.isAlphanum = false)
    (h : c.isAlphanum = true) : quotedChar quote c = [c] := by
  have hne : ∀ e : Char, e.isAlphanum = false → c ≠ e := by
    rintro e he rfl
    rw [h] at he
    cases he
  obtain ⟨hlow, hhigh⟩ := toNat_of_isAlphanum h
  have hprintable : ' ' ≤ c ∧ c < '\x7f' := by
    constructor
    · exact UInt32.le_iff_toNat_le.2 (show 32 ≤ c.toNat by omega)
    · exact UInt32.lt_iff_toNat_lt.2 (show c.toNat < 127 by omega)
  rw [quotedChar, if_neg (not_or.2 ⟨hne _ hquote, hne _ (by decide)⟩), if_neg (hne _ (by decide)),
    if_neg (hne _ (by decide)), if_neg (hne _ (by decide)), if_pos (.inl hprintable)]

theorem Name.quoted_text (n : Name) : n.text.quoted = '\x27' :: n.text ++ ['\x27'] := by
  have halnum : ∀ c ∈ n.text, c.isAlphanum = true := List.all_eq_true.1 n.alphanumeric
  have hquote : Text.quoteFor n.text = '\x27' := by
    have hnone : n.text.contains '\x27' = false := by
      rw [List.contains_eq_mem, decide_eq_false_iff_not]
      exact fun hmem => absurd (halnum _ hmem) (by decide)
    rw [Text.quoteFor, hnone]
    rfl
  rw [Text.quoted, hquote, List.flatMap_congr fun c hc =>
    Text.quotedChar_of_isAlphanum (by decide) (halnum c hc), List.flatMap_singleton']

theorem Name.append_quote_inj {n m : Name} {xs ys : Text}
    (h : n.text ++ '\x27' :: xs = m.text ++ '\x27' :: ys) : n = m ∧ xs = ys := by
  have hstop : ∀ zs : Text, ∀ c ∈ ('\x27' :: zs).head?, c.isAlphanum = false := by
    rintro zs c ⟨⟩
    decide
  have hname := congrArg (List.takeWhile Char.isAlphanum) h
  rw [Text.takeWhile_append_stop (List.all_eq_true.1 n.alphanumeric) (hstop xs),
    Text.takeWhile_append_stop (List.all_eq_true.1 m.alphanumeric) (hstop ys)] at hname
  rw [hname] at h
  exact ⟨Name.text_inj.1 hname, (List.cons.inj (List.append_cancel_left h)).2⟩

/-! ## Constructions -/

namespace Node

/-- The inspected form of a tree, in which no foreign object is met. -/
def inspected {c : Category} (t : Node Empty c) : Text := t.inspect Empty.elim

section Forms

variable (xs : Text)

theorem inspected_identifier (n : Name) :
    (identifier n : Term).inspected ++ xs =
      "Identifier(".toList ++ '\x27' :: (n.text ++ '\x27' :: ')' :: xs) := by
  simp [inspected, inspect, construction, Shape.name, n.quoted_text]

theorem inspected_group (body : Formula) :
    (group body : Term).inspected ++ xs = "Nested(".toList ++ (body.inspected ++ ')' :: xs) := by
  simp [inspected, inspect, construction, Shape.name]

theorem inspected_bare (term : Term) :
    (bare term).inspected ++ xs = "Leaf(".toList ++ (term.inspected ++ ')' :: xs) := by
  simp [inspected, inspect, construction, Shape.name]

theorem inspected_negation (operand : Term) :
    (negation operand).inspected ++ xs = "Unary(".toList ++ (operand.inspected ++ ')' :: xs) := by
  simp [inspected, inspect, construction, Shape.name]

theorem inspected_compound (op : Connective) (left right : Term) :
    (compound op left right).inspected ++ xs =
      "Binary(".toList ++ (op.qualifiedName.toList ++ ',' :: ' ' ::
        (left.inspected ++ ',' :: ' ' :: (right.inspected ++ ')' :: xs))) := by
  simp [inspected, inspect, construction, Shape.name]

end Forms

theorem qualifiedName_append_inj {op op' : Connective} {xs ys : Text}
    (h : op.qualifiedName.toList ++ ',' :: xs = op'.qualifiedName.toList ++ ',' :: ys) :
    op = op' ∧ xs = ys := by
  cases op <;> cases op' <;> simp_all [Connective.qualifiedName, Connective.name]

/-- The letter that the construction of a tree begins with. It tells the shape. -/
def initial : {c : Category} → Node Empty c → Char
  | _, .identifier _ => 'I'
  | _, .group _ => 'N'
  | _, .bare _ => 'L'
  | _, .negation _ => 'U'
  | _, .compound _ _ _ => 'B'

theorem head?_inspected {c : Category} (t : Node Empty c) (xs : Text) :
    (t.inspected ++ xs).head? = some t.initial := by
  cases t with
  | identifier n => rw [inspected_identifier]; rfl
  | group body => rw [inspected_group]; rfl
  | foreign e => exact e.elim
  | bare term => rw [inspected_bare]; rfl
  | negation operand => rw [inspected_negation]; rfl
  | compound op left right => rw [inspected_compound]; rfl

theorem initial_eq_of_inspected {c d : Category} {t : Node Empty c} {u : Node Empty d}
    {xs ys : Text} (h : t.inspected ++ xs = u.inspected ++ ys) : t.initial = u.initial := by
  have hhead := congrArg List.head? h
  rw [head?_inspected, head?_inspected] at hhead
  exact Option.some.inj hhead

/-- The inspected forms of two trees that begin at the same place of a text are those of one tree,
and end at the same place. -/
theorem inspected_append_inj : {c d : Category} → (t : Node Empty c) → (u : Node Empty d) →
    {xs ys : Text} → t.inspected ++ xs = u.inspected ++ ys → t.any = u.any ∧ xs = ys
  | _, _, .identifier n, u, xs, ys => by
    intro h
    cases u with
    | identifier m =>
      rw [inspected_identifier, inspected_identifier] at h
      obtain ⟨rfl, hrest⟩ := Name.append_quote_inj (List.cons.inj (List.append_cancel_left h)).2
      exact ⟨rfl, (List.cons.inj hrest).2⟩
    | foreign e => exact e.elim
    | _ => exact absurd (initial_eq_of_inspected h) (by simp [initial])
  | _, _, .group body, u, xs, ys => by
    intro h
    cases u with
    | group other =>
      rw [inspected_group, inspected_group] at h
      obtain ⟨hbody, hrest⟩ := body.inspected_append_inj other (List.append_cancel_left h)
      rw [any_inj hbody]
      exact ⟨rfl, (List.cons.inj hrest).2⟩
    | foreign e => exact e.elim
    | _ => exact absurd (initial_eq_of_inspected h) (by simp [initial])
  | _, _, .foreign e, _, _, _ => e.elim
  | _, _, .bare term, u, xs, ys => by
    intro h
    cases u with
    | bare other =>
      rw [inspected_bare, inspected_bare] at h
      obtain ⟨hterm, hrest⟩ := term.inspected_append_inj other (List.append_cancel_left h)
      rw [any_inj hterm]
      exact ⟨rfl, (List.cons.inj hrest).2⟩
    | foreign e => exact e.elim
    | _ => exact absurd (initial_eq_of_inspected h) (by simp [initial])
  | _, _, .negation operand, u, xs, ys => by
    intro h
    cases u with
    | negation other =>
      rw [inspected_negation, inspected_negation] at h
      obtain ⟨hoperand, hrest⟩ := operand.inspected_append_inj other (List.append_cancel_left h)
      rw [any_inj hoperand]
      exact ⟨rfl, (List.cons.inj hrest).2⟩
    | foreign e => exact e.elim
    | _ => exact absurd (initial_eq_of_inspected h) (by simp [initial])
  | _, _, .compound op left right, u, xs, ys => by
    intro h
    cases u with
    | compound op' left' right' =>
      rw [inspected_compound, inspected_compound] at h
      obtain ⟨rfl, hleft⟩ := qualifiedName_append_inj (List.append_cancel_left h)
      obtain ⟨hl, hbehind⟩ := left.inspected_append_inj left' (List.cons.inj hleft).2
      obtain ⟨hr, hrest⟩ :=
        right.inspected_append_inj right' (List.cons.inj (List.cons.inj hbehind).2).2
      rw [any_inj hl, any_inj hr]
      exact ⟨rfl, (List.cons.inj hrest).2⟩
    | foreign e => exact e.elim
    | _ => exact absurd (initial_eq_of_inspected h) (by simp [initial])

theorem inspect_map {α β : Type} (f : α → β) (foreign : β → Text) :
    {c : Category} → (t : Node α c) →
      (t.map f).inspect foreign = t.inspect fun e => foreign (f e)
  | _, .identifier n => rfl
  | _, .group body => by rw [map, inspect, inspect, body.inspect_map]
  | _, .foreign e => rfl
  | _, .bare term => by rw [map, inspect, inspect, term.inspect_map]
  | _, .negation operand => by rw [map, inspect, inspect, operand.inspect_map]
  | _, .compound op left right => by
    rw [map, inspect, inspect, left.inspect_map, right.inspect_map]

end Node

/-! ## Trees as values -/

theorem Value.inspect_ofTree (t : AnyNode Empty) : (ofTree t).inspect = t.node.inspected := by
  show (t.node.map Empty.elim).inspect Stray.inspect = _
  have hforeign : (fun e : Empty => Stray.inspect e.elim) = Empty.elim := funext fun e => e.elim
  rw [Node.inspect_map, hforeign]
  rfl

theorem Value.inspect_ofTree_injective :
    Function.Injective fun t : AnyNode Empty => (Value.ofTree t).inspect := by
  intro t u h
  dsimp only at h
  rw [inspect_ofTree, inspect_ofTree] at h
  have happend : t.node.inspected ++ [] = u.node.inspected ++ [] := by rw [h]
  exact (t.node.inspected_append_inj u.node happend).1

/-! ## Comparing trees -/

/-- The key of a tree without foreign objects. -/
def AnyNode.key (t : AnyNode Empty) : Key := .node t.node.embed.any

/-- What a comparison of two trees finds. -/
def AnyNode.compare (t u : AnyNode Empty) : Comparison := Key.compare t.key u.key

theorem AnyNode.equal_compare_iff {t u : AnyNode Empty} : (t.compare u).equal = true ↔ t = u :=
  compare_equal_iff t u

theorem AnyNode.key_injective : Function.Injective AnyNode.key := fun _ _ h =>
  equal_compare_iff.1 (decide_eq_true h)

theorem AnyNode.equal_compare_eq (t u : AnyNode Empty) :
    (t.compare u).equal = t.node.equals u.node := by
  rw [Node.equals_eq]
  exact Bool.eq_iff_iff.2 (equal_compare_iff.trans decide_eq_true_iff.symm)

theorem AnyNode.sameHash_compare {t u : AnyNode Empty} (h : (t.compare u).equal = true) :
    (t.compare u).sameHash = some true := by
  obtain rfl := equal_compare_iff.1 h
  simp [compare, Key.compare]

/-! ## Sets of trees -/

section Sets

variable {α β : Type} [DecidableEq α] [DecidableEq β]

theorem length_eraseDups (items : List α) : items.eraseDups.length = items.toFinset.card := by
  cases items with
  | nil => rfl
  | cons a rest =>
    have hshorter : (rest.filter fun b => !b == a).length < (a :: rest).length :=
      Nat.lt_succ_of_le (List.length_filter_le _ _)
    have herase : (rest.filter fun b => !b == a).toFinset = rest.toFinset.erase a := by
      ext b
      simp [and_comm]
    have hmem : a ∈ (a :: rest).toFinset := by simp
    rw [List.eraseDups_cons, List.length_cons, length_eraseDups, herase,
      ← Finset.card_erase_add_one hmem, List.toFinset_cons, Finset.erase_insert_eq_erase]
termination_by items.length
decreasing_by exact hshorter

theorem card_toFinset_map {f : α → β} (hf : Function.Injective f) (items : List α) :
    (items.map f).toFinset.card = items.toFinset.card := by
  have himage : (items.map f).toFinset = items.toFinset.image f := by
    ext b
    simp
  rw [himage, Finset.card_image_of_injective _ hf]

end Sets

theorem Workbench.answer_countDistinct {w : Workbench} {operands : List Operand}
    {trees : List (AnyNode Empty)}
    (h : operands.map w.value = trees.map fun t => .ok (Value.ofTree t)) :
    w.answer (.countDistinct operands) =
      .ok (.counted (trees.map fun t => (Value.ofTree t).inspect).toFinset.card) := by
  have hkeys : (operands.mapM fun o => do (← w.value o).key) =
      (.ok (trees.map AnyNode.key) : Except Refusal (List Key)) := by
    induction operands generalizing trees with
    | nil =>
      obtain rfl := List.map_eq_nil_iff.1 h.symm
      rfl
    | cons operand operands ih =>
      rcases trees with _ | ⟨t, trees⟩
      · cases h
      · rw [List.map_cons, List.map_cons, List.cons.injEq] at h
        rw [List.mapM_cons, h.1, ih h.2]
        rfl
  show ((operands.mapM fun o => do (← w.value o).key) >>= fun keys : List Key =>
    .ok (Report.counted keys.eraseDups.length)) = _
  rw [hkeys]
  show Except.ok (Report.counted (trees.map AnyNode.key).eraseDups.length) = _
  rw [length_eraseDups, card_toFinset_map AnyNode.key_injective,
    card_toFinset_map Value.inspect_ofTree_injective]

/-! ## Equality and the inspected form -/

/-- Two trees are equal, as their nodes find by asking one another, exactly if they are inspected in
the same way, and then their hashes are equal. So equality is an equivalence, equal trees are of one
type, a term differs from the propositions that are made of it, which differ too, and a set of trees
has as many members as there are inspected forms. -/
theorem inspect_decides_equality :
    (∀ t u : AnyNode Empty, (t.compare u).equal = t.node.equals u.node ∧
      ((t.compare u).equal = true ↔ (Value.ofTree t).inspect = (Value.ofTree u).inspect) ∧
      ((t.compare u).equal = true → (t.compare u).sameHash = some true ∧
        (Value.ofTree t).typeName = (Value.ofTree u).typeName)) ∧
    (Equivalence fun t u : AnyNode Empty => (t.compare u).equal = true) ∧
    (∀ x : Term, ((Node.bare x).any.compare (Node.negation x).any).equal = false ∧
      ((Node.bare x).any.compare x.any).equal = false ∧
      ((Node.negation x).any.compare x.any).equal = false) ∧
    ∀ (w : Workbench) (operands : List Operand) (trees : List (AnyNode Empty)),
      operands.map w.value = trees.map (fun t => .ok (Value.ofTree t)) →
        w.answer (.countDistinct operands) =
          .ok (.counted (trees.map fun t => (Value.ofTree t).inspect).toFinset.card) := by
  refine ⟨fun t u => ⟨t.equal_compare_eq u, ?_, fun h => ⟨AnyNode.sameHash_compare h, ?_⟩⟩,
    ⟨fun t => ?_, fun h => ?_, fun h h' => ?_⟩, fun x => ⟨?_, ?_, ?_⟩, fun _ _ _ =>
      Workbench.answer_countDistinct⟩
  · exact AnyNode.equal_compare_iff.trans Value.inspect_ofTree_injective.eq_iff.symm
  · rw [AnyNode.equal_compare_iff.1 h]
  · exact AnyNode.equal_compare_iff.2 rfl
  · exact AnyNode.equal_compare_iff.2 (AnyNode.equal_compare_iff.1 h).symm
  · exact AnyNode.equal_compare_iff.2
      ((AnyNode.equal_compare_iff.1 h).trans (AnyNode.equal_compare_iff.1 h'))
  · rw [Bool.eq_false_iff, ne_eq, AnyNode.equal_compare_iff]
    simp [Node.any]
  · rw [Bool.eq_false_iff, ne_eq, AnyNode.equal_compare_iff]
    simp [Node.any]
  · rw [Bool.eq_false_iff, ne_eq, AnyNode.equal_compare_iff]
    simp [Node.any]

/-- A workbench with the bare term `a`, its negation, and the bare term `a` once more. -/
def Workbench.threeTrees : Workbench where
  registers := #[some (.ofTree (Node.bare (.identifier Progress.someName)).any),
    some (.ofTree (Node.negation (.identifier Progress.someName)).any),
    some (.ofTree (Node.bare (.identifier Progress.someName)).any)]

/-- Two of the three trees are equal, are inspected in the same way, and make up one member of the
set of all three. -/
theorem inspect_of_threeTrees :
    ((Node.bare (.identifier Progress.someName)).any.compare
      (Node.bare (.identifier Progress.someName)).any).sameHash = some true ∧
    (Value.ofTree (Node.bare (.identifier Progress.someName)).any).inspect =
      "Leaf(Identifier('a'))".toList ∧
    Workbench.threeTrees.answer (.countDistinct [.register 0, .register 1, .register 2]) =
      .ok (.counted 2) := by
  obtain ⟨hcompare, hequivalence, -, hset⟩ := inspect_decides_equality
  refine ⟨((hcompare _ _).2.2 (hequivalence.refl _)).1, by decide, ?_⟩
  have hcount := hset .threeTrees [.register 0, .register 1, .register 2]
    [(Node.bare (.identifier Progress.someName)).any,
      (Node.negation (.identifier Progress.someName)).any,
      (Node.bare (.identifier Progress.someName)).any] rfl
  refine hcount.trans (congrArg (fun n => Except.ok (Report.counted n)) ?_)
  decide +kernel

end Propositional
