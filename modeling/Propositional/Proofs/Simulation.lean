import Propositional.Parse.Descent

/-!
# Descents side by side

The steps of the grammar are put together from operations in the same way in every monad. Hence a
relation between the steps of two monads that is kept by putting steps together, and that relates
the operations one by one, relates the descents as a whole.

1. `Simulation` is such a relation, for every relation between the results of the steps.
2. `Operations.Agree` and `Makers.Agree` say that the operations are related one by one.
3. `Operations.Agree.simple` goes by recursion on the room for groups, and
   `Operations.Agree.wholeText` is what follows for a whole text.

A step of any monad is compared with one of `Descent` by `Ends`: it fails as the other does, or
leaves the same state.
-/

namespace Propositional

/-- A relation between the steps of two monads that is kept by putting steps together. -/
structure Simulation (m n : Type → Type) [Monad m] [Monad n] where
  /-- Two steps are related, with results that are related by `R`. -/
  Rel {β γ : Type} (R : β → γ → Prop) (w : m β) (v : n γ) : Prop
  pure {β γ : Type} {R : β → γ → Prop} {b : β} {c : γ} (h : R b c) : Rel R (pure b) (pure c)
  bind {β γ δ ε : Type} {R : β → γ → Prop} {S : δ → ε → Prop} {w : m β} {v : n γ}
    {k : β → m δ} {l : γ → n ε} (h : Rel R w v) (hk : ∀ b c, R b c → Rel S (k b) (l c)) :
    Rel S (w >>= k) (v >>= l)

variable {m n : Type → Type} [Monad m] [Monad n] {τ φ τ' φ' : Type}

/-! ## Operations one by one -/

/-- The operations along the tokens are related. -/
structure Operations.Agree (sim : Simulation m n) (ops : Operations m) (ops' : Operations n) :
    Prop where
  current : sim.Rel Eq ops.current ops'.current
  advance : sim.Rel Eq ops.advance ops'.advance
  enter (index : Int) : sim.Rel Eq (ops.enter index) (ops'.enter index)
  leave : sim.Rel Eq ops.leave ops'.leave
  fail {β γ : Type} (R : β → γ → Prop) (e : ParseFailure) : sim.Rel R (ops.fail e) (ops'.fail e)

/-- The operations that make terms and formulas are related, where terms are related by `T` and
formulas by `F`. -/
structure Makers.Agree (sim : Simulation m n) (T : τ → τ' → Prop) (F : φ → φ' → Prop)
    (make : Makers m τ φ) (make' : Makers n τ' φ') : Prop where
  connective (op : Connective) : sim.Rel Eq (make.connective op) (make'.connective op)
  identifier (x : Name) : sim.Rel T (make.identifier x) (make'.identifier x)
  group {b : φ} {b' : φ'} (h : F b b') : sim.Rel T (make.group b) (make'.group b')
  bare {t : τ} {t' : τ'} (h : T t t') : sim.Rel F (make.bare t) (make'.bare t')
  negation {t : τ} {t' : τ'} (h : T t t') : sim.Rel F (make.negation t) (make'.negation t')
  compound (op : Connective) {t u : τ} {t' u' : τ'} (ht : T t t') (hu : T u u') :
    sim.Rel F (make.compound op t u) (make'.compound op t' u')

theorem Makers.agree_plain (sim : Simulation m n) :
    Makers.Agree sim Eq Eq (.plain : Makers m Term Formula) (.plain : Makers n Term Formula) := by
  constructor
  case connective => exact fun _ => sim.pure rfl
  case identifier => exact fun _ => sim.pure rfl
  case group =>
    rintro b _ rfl
    exact sim.pure rfl
  case bare =>
    rintro t _ rfl
    exact sim.pure rfl
  case negation =>
    rintro t _ rfl
    exact sim.pure rfl
  case compound =>
    rintro op t u _ _ rfl rfl
    exact sim.pure rfl

/-! ## The steps of the grammar -/

namespace Operations.Agree

variable {sim : Simulation m n} {ops : Operations m} {ops' : Operations n} (h : ops.Agree sim ops')
  {T : τ → τ' → Prop} {F : φ → φ' → Prop} {make : Makers m τ φ} {make' : Makers n τ' φ'}
  (hmake : Makers.Agree sim T F make make')

include h

theorem closeGroup : sim.Rel Eq ops.closeGroup ops'.closeGroup := by
  unfold Operations.closeGroup
  refine sim.bind h.current ?_
  rintro t _ rfl
  rcases t with _ | t
  · exact h.fail _ _
  · by_cases hclosing : t.lexeme = .closing
    · simp only [hclosing, if_true]
      exact h.advance
    · simp only [hclosing, if_false]
      exact h.fail _ _

include hmake

theorem proposition {w : m τ} {v : n τ'} (hterm : sim.Rel T w v) :
    sim.Rel F (ops.proposition make w) (ops'.proposition make' v) := by
  unfold Operations.proposition
  refine sim.bind h.current ?_
  rintro t _ rfl
  by_cases hnegation : t.map Token.lexeme = some .negation
  · simp only [hnegation, if_true]
    exact sim.bind h.advance fun _ _ _ => sim.bind hterm fun _ _ ht => hmake.negation ht
  · simp only [hnegation, if_false]
    refine sim.bind hterm fun left left' hleft => sim.bind h.current ?_
    rintro t _ rfl
    rcases Parse.connective? t with _ | op
    · exact hmake.bare hleft
    · refine sim.bind h.advance fun _ _ _ => sim.bind (hmake.connective op) ?_
      rintro op _ rfl
      exact sim.bind hterm fun _ _ hright => hmake.compound op hleft hright

/-- By recursion on the room that is left for groups. -/
theorem simple (room : Nat) : sim.Rel T (ops.simple make room) (ops'.simple make' room) := by
  unfold Operations.simple
  refine sim.bind h.current ?_
  rintro t _ rfl
  rcases t with _ | t
  · exact h.fail _ _
  dsimp only
  cases t.lexeme with
  | identifier x => exact sim.bind h.advance fun _ _ _ => hmake.identifier x
  | opening =>
    refine sim.bind (h.enter t.index) fun _ _ _ => ?_
    cases room with
    | zero => exact h.fail _ _
    | succ room =>
      refine sim.bind h.advance fun _ _ _ => ?_
      refine sim.bind (h.proposition hmake (simple room)) fun body body' hbody => ?_
      exact sim.bind h.closeGroup fun _ _ _ => sim.bind h.leave fun _ _ _ => hmake.group hbody
  | negation | connective op | closing => exact h.fail _ _

theorem wholeText {report : φ → m Unit} {report' : φ' → n Unit}
    (hreport : ∀ p p', F p p' → sim.Rel Eq (report p) (report' p')) :
    sim.Rel F (ops.wholeText make report) (ops'.wholeText make' report') := by
  unfold Operations.wholeText
  refine sim.bind h.advance fun _ _ _ => ?_
  refine sim.bind (h.proposition hmake (h.simple hmake _)) fun p p' hp => sim.bind h.current ?_
  rintro t _ rfl
  rcases t with _ | t
  · exact sim.bind (hreport p p' hp) fun _ _ _ => sim.pure hp
  · exact h.fail _ _

end Operations.Agree

/-! ## Ends of steps -/

section Ends

variable {ε β γ : Type}

/-- A step with failures of a wider kind ends as one of the descent does: it fails in the same way,
or leaves the same state, with results that are related by `R`. -/
inductive Ends (widen : ParseFailure → ε) (R : β → γ → Prop) :
    Except ε (β × ParseState) → Except ParseFailure (γ × ParseState) → Prop
  | failed (e : ParseFailure) : Ends widen R (.error (widen e)) (.error e)
  | passed {b : β} {c : γ} (h : R b c) (s : ParseState) : Ends widen R (.ok (b, s)) (.ok (c, s))

theorem Ends.map_fst {widen : ParseFailure → ε} {g : γ → β} {x : Except ε (β × ParseState)}
    {y : Except ParseFailure (γ × ParseState)} (h : Ends widen (fun b c => b = g c) x y) :
    x.map Prod.fst = ((y.map Prod.fst).map g).mapError widen := by
  cases h with
  | failed e => rfl
  | passed h s =>
    rw [h]
    rfl

end Ends

end Propositional
