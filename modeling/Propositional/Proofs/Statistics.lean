import Mathlib.Algebra.Group.Nat.Even
import Propositional.Proofs.Acceptance
import Propositional.Proofs.Output

/-!
# Statistics read off the lexemes

The measures of the tree of a formula are found by recursion on the tree. They can also be read off
the lexemes of the formula, without the tree.

1. The least tree of a category has one node on each of its levels (`Category.levels`). A connective
   adds one node, and a group two (`Node.size_eq_levels`). Groups within one another add two levels
   each (`Node.height_add_one`).
2. Propositions and simple terms alternate with the depth (`Node.category_of_mem_preorder`).
3. The names in a tree are the texts of the identifiers among its lexemes (`Node.names_eq`), of
   which there is one more than there are connectives (`Node.operands_lexemes`).

Each of these is one recursion over both categories of nodes. `Formula.MeasuredBy` puts together
what follows for a formula that a parse delivers.
-/

namespace Propositional

/-! ## Counting lexemes -/

def Lexeme.Kind.isConnective : Kind → Bool
  | .connective _ => true
  | _ => false

/-- The number of lexemes whose kind passes a test. -/
def countKinds (test : Lexeme.Kind → Bool) (xs : List Lexeme) : Nat :=
  xs.countP fun x => test x.kind

/-- The number of connectives. -/
def connectives (xs : List Lexeme) : Nat := countKinds Lexeme.Kind.isConnective xs

/-- The number of opening parentheses. -/
def openings (xs : List Lexeme) : Nat := countKinds (· = .opening) xs

def operands (xs : List Lexeme) : Nat := countKinds (· = .identifier) xs

namespace Node

section Counting

variable (test : Lexeme.Kind → Bool)

theorem countKinds_group (body : Formula) :
    countKinds test (lexemes (.group body)) =
      countKinds test body.lexemes + (if test .closing then 1 else 0) +
        if test .opening then 1 else 0 := by
  rw [lexemes, List.cons_append, countKinds, List.countP_cons, List.countP_append,
    List.countP_singleton]
  rfl

theorem countKinds_negation (operand : Term) :
    countKinds test (lexemes (.negation operand)) =
      countKinds test operand.lexemes + if test .negation then 1 else 0 :=
  List.countP_cons

theorem countKinds_compound (op : Connective) (left right : Term) :
    countKinds test (lexemes (.compound op left right)) =
      countKinds test left.lexemes +
        (countKinds test right.lexemes + if test (.connective op) then 1 else 0) := by
  rw [lexemes, countKinds, List.countP_append, List.countP_cons]
  rfl

end Counting

end Node

/-! ## Levels -/

namespace Category

/-- The levels of the least tree of a category: a simple term may be an identifier, and so may the
one term of a proposition. -/
def levels : Category → Nat
  | .simple => 1
  | .proposition => 2

/-- The category of the children of a node. -/
def other : Category → Category
  | .simple => .proposition
  | .proposition => .simple

/-- The category of the nodes of a formula at a depth. -/
def atDepth (depth : Nat) : Category := if Even depth then .proposition else .simple

theorem atDepth_add_one {c : Category} {depth : Nat} (h : atDepth depth = c) :
    atDepth (depth + 1) = c.other := by
  subst h
  by_cases heven : Even depth <;> simp [atDepth, Nat.even_add_one, heven, other]

end Category

namespace Node

/-! ## Trees and their lexemes -/

/-- Beyond one on each level of its category, a tree has a node for each connective and two for each
group. -/
theorem size_eq_levels : {c : Category} → (t : Node Empty c) →
    t.size = c.levels + connectives t.lexemes + 2 * openings t.lexemes
  | _, .identifier n => rfl
  | _, .group body => by
    have hconnectives : connectives (lexemes (.group body)) = connectives body.lexemes :=
      countKinds_group _ body
    have hopenings : openings (lexemes (.group body)) = openings body.lexemes + 1 :=
      countKinds_group _ body
    rw [size, body.size_eq_levels, hconnectives, hopenings, Category.levels, Category.levels]
    omega
  | _, .bare term => by
    rw [size, term.size_eq_levels, lexemes, Category.levels, Category.levels]
    omega
  | _, .negation operand => by
    have hconnectives : connectives (lexemes (.negation operand)) = connectives operand.lexemes :=
      countKinds_negation _ operand
    have hopenings : openings (lexemes (.negation operand)) = openings operand.lexemes :=
      countKinds_negation _ operand
    rw [size, operand.size_eq_levels, hconnectives, hopenings, Category.levels, Category.levels]
    omega
  | _, .compound op left right => by
    have hconnectives : connectives (lexemes (.compound op left right)) =
        connectives left.lexemes + (connectives right.lexemes + 1) :=
      countKinds_compound _ op left right
    have hopenings : openings (lexemes (.compound op left right)) =
        openings left.lexemes + openings right.lexemes :=
      countKinds_compound _ op left right
    rw [size, left.size_eq_levels, right.size_eq_levels, hconnectives, hopenings,
      Category.levels, Category.levels]
    omega

theorem operands_lexemes : {c : Category} → (t : Node Empty c) →
    operands t.lexemes = connectives t.lexemes + 1
  | _, .identifier n => rfl
  | _, .group body => by
    rw [operands, connectives, countKinds_group, countKinds_group]
    exact body.operands_lexemes
  | _, .bare term => term.operands_lexemes
  | _, .negation operand => by
    rw [operands, connectives, countKinds_negation, countKinds_negation]
    exact operand.operands_lexemes
  | _, .compound op left right => by
    have hleft := left.operands_lexemes
    have hright := right.operands_lexemes
    rw [operands, connectives, countKinds_compound, countKinds_compound]
    change operands left.lexemes + operands right.lexemes =
      connectives left.lexemes + (connectives right.lexemes + 1) + 1
    omega

/-- Beyond the levels of its category, a tree has two levels for each group of the most that are
within one another. -/
theorem height_add_one : {c : Category} → (t : Node Empty c) →
    t.height + 1 = c.levels + 2 * t.nesting
  | _, .identifier n => rfl
  | _, .group body => by
    have hbody := body.height_add_one
    simp only [height, nesting, Category.levels] at hbody ⊢
    omega
  | _, .bare term => by
    have hterm := term.height_add_one
    simp only [height, nesting, Category.levels] at hterm ⊢
    omega
  | _, .negation operand => by
    have hoperand := operand.height_add_one
    simp only [height, nesting, Category.levels] at hoperand ⊢
    omega
  | _, .compound op left right => by
    have hleft := left.height_add_one
    have hright := right.height_add_one
    simp only [height, nesting, Category.levels] at hleft hright ⊢
    omega

theorem names_eq : {c : Category} → (t : Node Empty c) →
    t.names = (t.lexemes.filter fun x => x.kind = .identifier).map Lexeme.text
  | _, .identifier n => rfl
  | _, .group body => by simp [names, lexemes, Lexeme.kind, body.names_eq]
  | _, .bare term => term.names_eq
  | _, .negation operand => operand.names_eq
  | _, .compound op left right => by
    simp [names, lexemes, Lexeme.kind, left.names_eq, right.names_eq]

/-- Below a node of the category for its depth, each node is of the category for its depth. -/
theorem category_of_mem_preorder {α : Type} : {c : Category} → (t : Node α c) → {depth : Nat} →
    .atDepth depth = c → ∀ v ∈ t.preorder depth, v.1.category = .atDepth v.2
  | _, .identifier n, _, h => List.forall_mem_singleton.2 h.symm
  | _, .group body, _, h =>
    List.forall_mem_cons.2 ⟨h.symm, body.category_of_mem_preorder (Category.atDepth_add_one h)⟩
  | _, .foreign e, _, h => List.forall_mem_singleton.2 h.symm
  | _, .bare term, _, h =>
    List.forall_mem_cons.2 ⟨h.symm, term.category_of_mem_preorder (Category.atDepth_add_one h)⟩
  | _, .negation operand, _, h =>
    List.forall_mem_cons.2 ⟨h.symm, operand.category_of_mem_preorder (Category.atDepth_add_one h)⟩
  | _, .compound op left right, _, h => by
    have hbelow := Category.atDepth_add_one h
    refine List.forall_mem_cons.2 ⟨h.symm, List.forall_mem_append.2 ⟨?_, ?_⟩⟩
    · exact left.category_of_mem_preorder hbelow
    · exact right.category_of_mem_preorder hbelow

end Node

/-! ## Measures and statistics of a parsed text -/

/-- The last line of the statistics, with the names of identifiers. -/
def Command.identifiersLine (names : List Text) : String :=
  "  Identifiers: " ++ ", ".intercalate (names.map String.ofList) ++ "\n"

/-- What the lexemes of a formula tell of its measures and of its statistics. -/
structure Formula.MeasuredBy (p : Formula) (xs : List Lexeme) : Prop where
  /-- There are two nodes, one more for each connective, and two more for each group. -/
  count : p.count = .ok (2 + connectives xs + 2 * openings xs)
  /-- There is one identifier more than there are connectives. -/
  operands : operands xs = connectives xs + 1
  /-- Each of the most groups that are open at once adds two to the depth. -/
  depth : ∃ d : Nat, p.depth = .ok d ∧ (d : Int) = 2 * peak xs + 1
  /-- A walk comes to its end. Propositions are at even depths, and simple terms at odd ones. -/
  walk : p.walk.failure = none ∧
    ∀ v ∈ p.walk.items, v.1.category = if Even v.2 then .proposition else .simple
  /-- The names are the texts of the identifiers, each once and in increasing order. The statistics
  end with a line of them, in the log as well as behind the tree. -/
  names : ∃ names, p.identifiers = .ok names ∧
    (∀ name, name ∈ names ↔ ∃ x ∈ xs, x.kind = .identifier ∧ x.text = name) ∧
    names.Pairwise (· < ·) ∧
    ∃ rows front, Command.statistics p = .ok rows ∧
      Command.statisticsBlock rows = front ++ Command.identifiersLine names ∧
      (Log.Entry.statistics rows).written = front ++ Command.identifiersLine names

theorem Formula.measuredBy_lexemes (p : Formula) : p.MeasuredBy p.lexemes := by
  have hwalk := Node.walk_of_foreigners p.foreigners_eq_nil
  have hcount := p.count_eq.trans (p.unlessForeign_foreigners p.size)
  have hdepth := p.depth_eq.trans (p.unlessForeign_foreigners p.height)
  have hidentifiers := p.identifiers_eq.trans (p.unlessForeign_foreigners _)
  have hwritten : (Log.Entry.statistics (Command.rowsFor p)).written = _ ++
      Command.identifiersLine (Text.sortDistinct p.names) := Command.written_rowsFor p
  exact {
    count := by
      rw [hcount, p.size_eq_levels]
      rfl
    operands := p.operands_lexemes
    depth := by
      have hlevels : p.height + 1 = 2 + 2 * p.nesting := p.height_add_one
      refine ⟨p.height, hdepth, ?_⟩
      rw [p.peak_lexemes]
      omega
    walk := by
      rw [hwalk]
      exact ⟨rfl, p.category_of_mem_preorder rfl⟩
    names := by
      refine ⟨_, hidentifiers, fun name => ?_, Text.pairwise_sortDistinct _, Command.rowsFor p, _,
        Command.statistics_eq p, (Command.statisticsBlock_eq_written _).trans hwritten, hwritten⟩
      rw [Text.mem_sortDistinct, p.names_eq]
      simp [and_assoc] }

/-- The tokens of a text that is parsed tell of the measures of the formula. -/
theorem exists_measuredBy_of_parse {limit : Option Int} {text : Text} {p : Formula}
    (h : (parse limit text).outcome = .ok p) :
    ∃ ts, tokenize text 1 0 = ⟨ts, none⟩ ∧ p.MeasuredBy (ts.map Token.lexeme) := by
  obtain ⟨⟨ts, hts, hp⟩, -⟩ := parse_eq_ok_iff_admits.1 h
  have hmeasured := p.measuredBy_lexemes
  rw [← derives_iff.1 hp] at hmeasured
  exact ⟨ts, hts, hmeasured⟩

/-- The formula `(b&a)>b`. -/
def Formula.leftGroup : Formula :=
  .compound .implication
    (.group (.compound .conjunction (.identifier ⟨['b'], by simp, by decide⟩)
      (.identifier Progress.someName)))
    (.identifier ⟨['b'], by simp, by decide⟩)

/-- A formula with a group is measured by the tokens of a text that it is parsed from. -/
theorem measures_of_leftGroup :
    (parse (some 1) "(b&a) > b".toList).outcome = .ok .leftGroup ∧
      ∃ ts, tokenize "(b&a) > b".toList 1 0 = ⟨ts, none⟩ ∧
        Formula.leftGroup.MeasuredBy (ts.map Token.lexeme) := by
  have hparse : (parse (some 1) "(b&a) > b".toList).outcome = .ok .leftGroup := by decide +kernel
  exact ⟨hparse, exists_measuredBy_of_parse hparse⟩

end Propositional
