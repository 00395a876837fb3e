import Propositional.Grammar

/-!
# Progress through a formula

How far a list of lexemes has come on its way to a formula. `Progress` is the stage of the innermost
proposition with the stages that the propositions around it will have once it is closed, and
`Progress.step` takes in one lexeme if the formula can go on with it.

1. `Progress.Reads` gives a progress its meaning: what has been read of each open proposition. A
   step keeps it (`Progress.Reads.step`), so a run does (`Progress.Reads.run`).
2. Every progress can be brought to an end (`Progress.exists_completion`), and the lexemes of a tree
   run through (`Progress.run_lexemes`). So `viable_iff`: a list is the beginning of a derivable one
   exactly if it has a run.
3. `Progress.depth_of_run`: the depth of a progress is the number of groups open, and
   `Node.peak_lexemes`: the most that a tree has open at once is its nesting.
-/

namespace Propositional

/-- A list of lexemes is viable if it is the beginning of a derivable one. -/
def Viable (xs : List Lexeme) : Prop := ∃ (t : Formula) (ys : List Lexeme), Derives t ys ∧ xs <+: ys

/-! ## Stages -/

/-- What has been read of a proposition: nothing; all but its last operand; one operand, which a
connective may follow; or all of it. -/
inductive Stage where
  | fresh
  | pending
  | bare
  | complete
  deriving DecidableEq

/-- The stage after an operand, unless no operand can follow. -/
def Stage.afterOperand? : Stage → Option Stage
  | .fresh => some .bare
  | .pending => some .complete
  | .bare | .complete => none

/-- The lexemes that have been read of a proposition at a stage. -/
inductive Stage.Reads : Stage → List Lexeme → Prop
  | fresh : Reads .fresh []
  | negation : Reads .pending [.negation]
  | connective (left : Term) (op : Connective) : Reads .pending (left.lexemes ++ [.connective op])
  | bare (term : Term) : Reads .bare term.lexemes
  | complete (t : Formula) : Reads .complete t.lexemes

namespace Stage

variable {stage after : Stage} {xs : List Lexeme}

theorem Reads.operand (h : stage.Reads xs) (hs : stage.afterOperand? = some after) (term : Term) :
    after.Reads (xs ++ term.lexemes) := by
  cases h with
  | fresh => cases hs; exact .bare term
  | negation => cases hs; exact .complete (.negation term)
  | connective left op =>
    cases hs
    rw [List.append_assoc]
    exact .complete (.compound op left term)
  | bare => cases hs
  | complete => cases hs

theorem Reads.exists_formula (h : stage.Reads xs) (hs : stage.afterOperand? = none) :
    ∃ t : Formula, xs = t.lexemes := by
  cases h with
  | fresh => cases hs
  | negation => cases hs
  | connective => cases hs
  | bare term => exact ⟨.bare term, rfl⟩
  | complete t => exact ⟨t, rfl⟩

end Stage

/-! ## Progress -/

/-- The stage of the innermost proposition, and for each proposition around it, from the innermost
outwards, the stage after the group that it waits for. -/
structure Progress where
  stage : Stage
  outer : List Stage
  deriving DecidableEq

namespace Progress

/-- Nothing has been read. -/
def start : Progress := ⟨.fresh, []⟩

def depth (q : Progress) : Nat := q.outer.length

/-- The progress after one more lexeme, unless the formula cannot go on with it. -/
def step (q : Progress) : Lexeme → Option Progress
  | .identifier _ => q.stage.afterOperand?.map fun after => ⟨after, q.outer⟩
  | .negation => if q.stage = .fresh then some ⟨.pending, q.outer⟩ else none
  | .connective _ => if q.stage = .bare then some ⟨.pending, q.outer⟩ else none
  | .opening => q.stage.afterOperand?.map fun after => ⟨.fresh, after :: q.outer⟩
  | .closing =>
    match q.stage.afterOperand?, q.outer with
    | none, after :: outer => some ⟨after, outer⟩
    | _, _ => none

/-- The progress after a list of lexemes. -/
def run (q : Progress) (xs : List Lexeme) : Option Progress := xs.foldlM step q

/-- A whole formula has been read. -/
def accepts (q : Progress) : Bool := q.stage.afterOperand?.isNone && q.outer.isEmpty

variable {q r : Progress} {x : Lexeme} {xs ys : List Lexeme}

theorem run_cons : q.run (x :: xs) = (q.step x).bind fun r => r.run xs := rfl

theorem run_append : q.run (xs ++ ys) = (q.run xs).bind fun r => r.run ys :=
  List.foldlM_append

theorem accepts_iff : q.accepts = true ↔ q.stage.afterOperand? = none ∧ q.outer = [] := by
  rw [accepts, Bool.and_eq_true, Option.isNone_iff_eq_none, List.isEmpty_iff]

/-! ## What a progress has read -/

/-- The lexemes that have been read on the way to a progress. -/
inductive Reads : Progress → List Lexeme → Prop
  | outermost {stage : Stage} {xs : List Lexeme} : stage.Reads xs → Reads ⟨stage, []⟩ xs
  | within {before after stage : Stage} {outer : List Stage} {xs ys : List Lexeme} :
    before.afterOperand? = some after → Reads ⟨before, outer⟩ xs → stage.Reads ys →
      Reads ⟨stage, after :: outer⟩ (xs ++ .opening :: ys)

theorem Reads.extend {stage after : Stage} {outer : List Stage} (h : Reads ⟨stage, outer⟩ xs)
    (hext : ∀ {zs}, stage.Reads zs → after.Reads (zs ++ ys)) : Reads ⟨after, outer⟩ (xs ++ ys) := by
  cases h with
  | outermost hs => exact .outermost (hext hs)
  | within hb hq hs =>
    rw [List.append_assoc]
    exact .within hb hq (hext hs)

theorem reads_start : Reads start [] := .outermost .fresh

theorem Reads.step (h : q.Reads xs) (hstep : q.step x = some r) : r.Reads (xs ++ [x]) := by
  obtain ⟨stage, outer⟩ := q
  cases x with
  | identifier n =>
    obtain ⟨after, hs, rfl⟩ := Option.map_eq_some_iff.1 hstep
    exact h.extend fun hz => hz.operand hs (.identifier n)
  | negation =>
    obtain ⟨rfl, hstep⟩ := Option.ite_none_right_eq_some.1 hstep
    cases hstep
    refine h.extend fun hz => ?_
    cases hz
    exact .negation
  | connective op =>
    obtain ⟨rfl, hstep⟩ := Option.ite_none_right_eq_some.1 hstep
    cases hstep
    refine h.extend fun hz => ?_
    cases hz with
    | bare term => exact .connective term op
  | opening =>
    obtain ⟨after, hs, rfl⟩ := Option.map_eq_some_iff.1 hstep
    exact .within hs h .fresh
  | closing =>
    simp only [Progress.step] at hstep
    split at hstep
    · rename_i after outer hs
      cases hstep
      cases h with
      | within hb hq hz =>
        obtain ⟨t, rfl⟩ := hz.exists_formula hs
        rw [List.append_assoc]
        exact hq.extend fun hz => hz.operand hb (.group t)
    · cases hstep

theorem Reads.run (h : q.Reads xs) (hrun : q.run ys = some r) : r.Reads (xs ++ ys) := by
  induction ys generalizing q xs with
  | nil =>
    cases hrun
    rwa [List.append_nil]
  | cons y ys ih =>
    rw [run_cons] at hrun
    obtain ⟨p, hp, hrun⟩ := Option.bind_eq_some_iff.1 hrun
    rw [List.append_cons]
    exact ih (h.step hp) hrun

theorem exists_formula_of_run (hrun : start.run xs = some q) (hq : q.accepts = true) :
    ∃ t : Formula, xs = t.lexemes := by
  obtain ⟨stage, outer⟩ := q
  obtain ⟨hs, rfl⟩ := accepts_iff.1 hq
  cases reads_start.run hrun with
  | outermost hz => exact hz.exists_formula hs

/-! ## Running through a tree -/

/-- The lexemes of a tree run through: those of a term as an operand, those of a proposition up to
where no operand can follow. -/
theorem run_lexemes : {c : Category} → (t : Node Empty c) → (q : Progress) →
    match c with
    | .simple => ∀ after, q.stage.afterOperand? = some after →
        q.run t.lexemes = some ⟨after, q.outer⟩
    | .proposition => q.stage = .fresh →
        ∃ stage, stage.afterOperand? = none ∧ q.run t.lexemes = some ⟨stage, q.outer⟩
  | _, .identifier n, q => by
    intro after h
    rw [Node.lexemes, run_cons, step, h]
    rfl
  | _, .group body, q => by
    intro after h
    obtain ⟨stage, hs, hbody⟩ := run_lexemes body ⟨.fresh, after :: q.outer⟩ rfl
    rw [Node.lexemes, List.cons_append, run_cons, step, h, Option.map_some, Option.bind_some,
      run_append, hbody, Option.bind_some, run_cons, step, hs]
    rfl
  | _, .bare term, q => by
    intro h
    exact ⟨.bare, rfl, run_lexemes term q .bare (by rw [h]; rfl)⟩
  | _, .negation operand, q => by
    intro h
    refine ⟨.complete, rfl, ?_⟩
    rw [Node.lexemes, run_cons, step, if_pos h, Option.bind_some]
    exact run_lexemes operand ⟨.pending, q.outer⟩ .complete rfl
  | _, .compound op left right, q => by
    intro h
    refine ⟨.complete, rfl, ?_⟩
    rw [Node.lexemes, run_append, run_lexemes left q .bare (by rw [h]; rfl),
      Option.bind_some, run_cons, step, if_pos rfl, Option.bind_some]
    exact run_lexemes right ⟨.pending, q.outer⟩ .complete rfl

theorem run_start_lexemes (t : Formula) :
    ∃ q, start.run t.lexemes = some q ∧ q.accepts = true := by
  obtain ⟨stage, hs, h⟩ := run_lexemes t start rfl
  exact ⟨_, h, accepts_iff.2 ⟨hs, rfl⟩⟩

/-! ## Viable lists -/

/-- A name, for completing a formula that lacks an operand. -/
def someName : Name := ⟨['a'], by simp, by decide⟩

theorem exists_operands (q : Progress) :
    ∃ ys stage, stage.afterOperand? = none ∧ q.run ys = some ⟨stage, q.outer⟩ := by
  obtain ⟨stage, outer⟩ := q
  cases stage with
  | fresh => exact ⟨[.identifier someName], .bare, rfl, rfl⟩
  | pending => exact ⟨[.identifier someName], .complete, rfl, rfl⟩
  | bare => exact ⟨[], .bare, rfl, rfl⟩
  | complete => exact ⟨[], .complete, rfl, rfl⟩

/-- Every progress can be brought to the end of a formula. -/
theorem exists_completion (q : Progress) : ∃ ys r, q.run ys = some r ∧ r.accepts = true := by
  obtain ⟨stage, outer⟩ := q
  induction outer generalizing stage with
  | nil =>
    obtain ⟨ys, stage, hs, h⟩ := exists_operands ⟨stage, []⟩
    exact ⟨ys, _, h, accepts_iff.2 ⟨hs, rfl⟩⟩
  | cons after outer ih =>
    obtain ⟨ys, stage, hs, h⟩ := exists_operands ⟨stage, after :: outer⟩
    obtain ⟨zs, r, hz, hr⟩ := ih after
    refine ⟨ys ++ .closing :: zs, r, ?_, hr⟩
    rw [run_append, h, Option.bind_some, run_cons, step, hs]
    exact hz

end Progress

/-- A list is viable exactly if it has a run. -/
theorem viable_iff {xs : List Lexeme} : Viable xs ↔ ∃ q, Progress.start.run xs = some q := by
  constructor
  · rintro ⟨t, _, ht, ys, rfl⟩
    obtain ⟨r, hr, -⟩ := Progress.run_start_lexemes t
    rw [← derives_iff.1 ht, Progress.run_append] at hr
    obtain ⟨q, hq, -⟩ := Option.bind_eq_some_iff.1 hr
    exact ⟨q, hq⟩
  · rintro ⟨q, hq⟩
    obtain ⟨ys, r, hy, hr⟩ := q.exists_completion
    have hrun : Progress.start.run (xs ++ ys) = some r := by
      rw [Progress.run_append, hq, Option.bind_some, hy]
    obtain ⟨t, ht⟩ := Progress.exists_formula_of_run hrun hr
    exact ⟨t, xs ++ ys, derives_iff.2 ht, ys, rfl⟩

/-! ## Open groups -/

/-- The number of groups that a list of lexemes opens beyond those that it closes. -/
def openGroups (xs : List Lexeme) : Int := xs.count .opening - xs.count .closing

/-- The most groups that a list of lexemes has open at once. -/
def peak : List Lexeme → Int
  | [] => 0
  | x :: xs => max 0 (openGroups [x] + peak xs)

theorem openGroups_nil : openGroups [] = 0 := rfl

theorem openGroups_append (xs ys : List Lexeme) :
    openGroups (xs ++ ys) = openGroups xs + openGroups ys := by
  simp only [openGroups, List.count_append]
  omega

theorem openGroups_cons (x : Lexeme) (xs : List Lexeme) :
    openGroups (x :: xs) = openGroups [x] + openGroups xs := openGroups_append [x] xs

theorem openGroups_symbol {x : Lexeme} (ho : x ≠ .opening) (hc : x ≠ .closing) :
    openGroups [x] = 0 := by
  simp [openGroups, ho, hc]

theorem peak_nonneg (xs : List Lexeme) : 0 ≤ peak xs := by
  cases xs with
  | nil => exact Int.le_refl 0
  | cons x xs => exact Int.le_max_left _ _

theorem peak_append (xs ys : List Lexeme) :
    peak (xs ++ ys) = max (peak xs) (openGroups xs + peak ys) := by
  induction xs with
  | nil =>
    have := peak_nonneg ys
    rw [List.nil_append, peak, openGroups_nil]
    omega
  | cons x xs ih =>
    rw [List.cons_append, peak, peak, ih, openGroups_cons x xs]
    omega

/-- The peak bounds the groups open after each beginning of a list, and is the least such bound. -/
theorem peak_le_iff {xs : List Lexeme} {n : Int} :
    peak xs ≤ n ↔ ∀ zs, zs <+: xs → openGroups zs ≤ n := by
  induction xs generalizing n with
  | nil =>
    constructor
    · rintro h zs hz
      rwa [List.prefix_nil.1 hz]
    · exact fun h => h [] List.nil_prefix
  | cons x xs ih =>
    have key : peak (x :: xs) ≤ n ↔ 0 ≤ n ∧ peak xs ≤ n - openGroups [x] := by
      rw [peak]
      omega
    rw [key, ih]
    constructor
    · rintro ⟨hn, h⟩ zs hz
      obtain rfl | ⟨ws, rfl, hw⟩ := List.prefix_cons_iff.1 hz
      · exact hn
      · have := h ws hw
        rw [openGroups_cons]
        omega
    · intro h
      refine ⟨h [] List.nil_prefix, fun ws hw => ?_⟩
      have := h (x :: ws) (List.cons_prefix_cons.2 ⟨rfl, hw⟩)
      rw [openGroups_cons] at this
      omega

theorem Node.openGroups_lexemes : {c : Category} → (t : Node Empty c) → openGroups t.lexemes = 0
  | _, .identifier n => openGroups_symbol (by simp) (by simp)
  | _, .group body => by
    have hbody := body.openGroups_lexemes
    have hopen : openGroups [.opening] = 1 := rfl
    have hclose : openGroups [.closing] = -1 := rfl
    rw [Node.lexemes, List.cons_append, openGroups_cons, openGroups_append]
    omega
  | _, .bare term => term.openGroups_lexemes
  | _, .negation operand => by
    rw [Node.lexemes, openGroups_cons, operand.openGroups_lexemes]
    rfl
  | _, .compound op left right => by
    rw [Node.lexemes, openGroups_append, openGroups_cons, left.openGroups_lexemes,
      right.openGroups_lexemes, openGroups_symbol (by simp) (by simp)]
    rfl

/-- The most groups that a tree has open at once is its nesting. -/
theorem Node.peak_lexemes : {c : Category} → (t : Node Empty c) → peak t.lexemes = t.nesting
  | _, .identifier n => rfl
  | _, .group body => by
    have hbody := body.peak_lexemes
    have hopen : openGroups [.opening] = 1 := rfl
    have hclose : peak [.closing] = 0 := rfl
    rw [Node.lexemes, List.cons_append, peak, peak_append, body.openGroups_lexemes, Node.nesting]
    omega
  | _, .bare term => term.peak_lexemes
  | _, .negation operand => by
    have hoperand := operand.peak_lexemes
    have hsymbol : openGroups [.negation] = 0 := rfl
    rw [Node.lexemes, peak, Node.nesting]
    omega
  | _, .compound op left right => by
    have hleft := left.peak_lexemes
    have hright := right.peak_lexemes
    have hsymbol : openGroups [.connective op] = 0 := openGroups_symbol (by simp) (by simp)
    rw [Node.lexemes, peak_append, peak, left.openGroups_lexemes, Node.nesting]
    omega

namespace Progress

variable {q r : Progress} {x : Lexeme} {xs : List Lexeme}

theorem depth_of_step (h : q.step x = some r) : (r.depth : Int) = q.depth + openGroups [x] := by
  cases x with
  | identifier n =>
    obtain ⟨after, -, rfl⟩ := Option.map_eq_some_iff.1 h
    rw [openGroups_symbol (by simp) (by simp), Int.add_zero]
    rfl
  | negation =>
    obtain ⟨-, h⟩ := Option.ite_none_right_eq_some.1 h
    cases h
    exact (Int.add_zero _).symm
  | connective op =>
    obtain ⟨-, h⟩ := Option.ite_none_right_eq_some.1 h
    cases h
    rw [openGroups_symbol (by simp) (by simp), Int.add_zero]
    rfl
  | opening =>
    obtain ⟨after, -, rfl⟩ := Option.map_eq_some_iff.1 h
    rfl
  | closing =>
    have hclose : openGroups [.closing] = -1 := rfl
    simp only [step] at h
    split at h
    · rename_i after outer _ houter
      cases h
      simp only [depth, houter, List.length_cons]
      omega
    · cases h

theorem depth_pos_of_step (h : q.step .opening = some r) : 0 < r.depth := by
  have hdepth := depth_of_step h
  have hopen : openGroups [.opening] = 1 := rfl
  omega

theorem depth_of_run (h : q.run xs = some r) : (r.depth : Int) = q.depth + openGroups xs := by
  induction xs generalizing q with
  | nil =>
    cases h
    exact (Int.add_zero _).symm
  | cons x xs ih =>
    rw [run_cons] at h
    obtain ⟨p, hp, h⟩ := Option.bind_eq_some_iff.1 h
    rw [ih h, depth_of_step hp, openGroups_cons x xs, Int.add_assoc]

end Progress

end Propositional
