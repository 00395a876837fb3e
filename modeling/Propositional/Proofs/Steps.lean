import Propositional.Proofs.Account

/-!
# Steps that deliver

The step of the grammar for a category of nodes, entered in some state, delivers a tree or fails.
`Descends` relates the state, the tree, the events and the state that is left, with one rule for
each shape of the tree and no monad.

`step_eq_ok_iff`: a step delivers a tree exactly if the descent goes through it. So what is to be
known about steps that deliver can be proved by induction on `Descends`, and that a step delivers by
recursion on the tree.
-/

namespace Propositional

open Parse Descent

/-- The step of the grammar for the nodes of a category, with room for a number of groups within one
another. -/
def Parse.step (limit : Option Int) (room : Nat) : (c : Category) → Descent (Node Empty c)
  | .simple => simple limit room
  | .proposition => proposition limit (simple limit room)

/-- From a state on, with room for a number of groups within one another, the descent goes through a
tree: it records events and leaves a state. -/
inductive Descends (limit : Option Int) : {c : Category} → Nat → ParseState → Node Empty c →
    List Event → ParseState → Prop
  | identifier {room : Nat} {s s' : ParseState} {t : Token} {n : Name} {es : List Event} :
    s.current = some t → t.lexeme = .identifier n → advance s = ⟨es, .ok ((), s')⟩ →
      Descends limit room s (.identifier n) es s'
  | group {room : Nat} {s s₁ s₂ s₃ s₄ : ParseState} {t : Token} {body : Formula}
      {entering pulled inside closing : List Event} :
    s.current = some t → t.lexeme = .opening →
      enter limit t.index s = ⟨entering, .ok ((), s₁)⟩ → advance s₁ = ⟨pulled, .ok ((), s₂)⟩ →
      Descends limit room s₂ body inside s₃ → closeGroup limit s₃ = ⟨closing, .ok ((), s₄)⟩ →
      Descends limit (room + 1) s (.group body)
        (entering ++ (pulled ++ (inside ++ (closing ++ [.left s₄.depth]))))
        { s₄ with depth := s₄.depth - 1 }
  | bare {room : Nat} {s s' : ParseState} {term : Term} {es : List Event} :
    s.current.map Token.lexeme ≠ some .negation → Descends limit room s term es s' →
      connective? s'.current = none → Descends limit room s (.bare term) es s'
  | negation {room : Nat} {s s₁ s' : ParseState} {operand : Term} {pulled es : List Event} :
    s.current.map Token.lexeme = some .negation → advance s = ⟨pulled, .ok ((), s₁)⟩ →
      Descends limit room s₁ operand es s' →
      Descends limit room s (.negation operand) (pulled ++ es) s'
  | compound {room : Nat} {s s₁ s₂ s' : ParseState} {op : Connective} {left right : Term}
      {es pulled es' : List Event} :
    s.current.map Token.lexeme ≠ some .negation → Descends limit room s left es s₁ →
      connective? s₁.current = some op → advance s₁ = ⟨pulled, .ok ((), s₂)⟩ →
      Descends limit room s₂ right es' s' →
      Descends limit room s (.compound op left right) (es ++ (pulled ++ es')) s'

section Steps

variable {limit : Option Int} {room : Nat} {s s' : ParseState} {es : List Event}

theorem proposition_eq_ok_iff
    (hterm : ∀ {s s' es} {x : Term},
      simple limit room s = ⟨es, .ok (x, s')⟩ ↔ Descends limit room s x es s') {p : Formula} :
    proposition limit (simple limit room) s = ⟨es, .ok (p, s')⟩ ↔ Descends limit room s p es s' := by
  unfold proposition Operations.proposition
  dsimp only [operations, Makers.plain]
  rw [current_bind]
  by_cases hneg : s.current.map Token.lexeme = some .negation
  · rw [if_pos hneg]
    simp only [bind_eq_ok_iff, pure_eq_ok_iff]
    constructor
    · rintro ⟨⟨⟩, s₁, pulled, _, hadvance, ⟨operand, _, es, _, hoperand, ⟨rfl, rfl, rfl⟩, rfl⟩, rfl⟩
      rw [List.append_nil]
      exact .negation hneg hadvance (hterm.1 hoperand)
    · intro h
      cases h with
      | negation _ hadvance hoperand =>
        exact ⟨(), _, _, _, hadvance, ⟨_, _, _, _, hterm.2 hoperand, ⟨rfl, rfl, rfl⟩, rfl⟩,
          by rw [List.append_nil]⟩
      | bare hne => exact absurd hneg hne
      | compound hne => exact absurd hneg hne
  · rw [if_neg hneg]
    simp only [bind_eq_ok_iff, current_bind]
    constructor
    · rintro ⟨left, s₁, es, after, hleft, h, rfl⟩
      cases hop : connective? s₁.current with
      | none =>
        rw [hop] at h
        obtain ⟨rfl, rfl, rfl⟩ := pure_eq_ok_iff.1 h
        rw [List.append_nil]
        exact .bare hneg (hterm.1 hleft) hop
      | some op =>
        rw [hop] at h
        simp only [Descent.pure_bind, bind_eq_ok_iff, pure_eq_ok_iff] at h
        obtain ⟨⟨⟩, s₂, pulled, _, hadvance, ⟨right, _, es', _, hright, ⟨rfl, rfl, rfl⟩, rfl⟩,
          rfl⟩ := h
        rw [List.append_nil]
        exact .compound hneg (hterm.1 hleft) hop hadvance (hterm.1 hright)
    · intro h
      cases h with
      | negation h => exact absurd h hneg
      | bare _ hleft hop =>
        refine ⟨_, _, _, [], hterm.2 hleft, ?_, (List.append_nil _).symm⟩
        rw [hop]
        rfl
      | compound _ hleft hop hadvance hright =>
        refine ⟨_, _, _, _, hterm.2 hleft, ?_, rfl⟩
        rw [hop]
        simp only [Descent.pure_bind, bind_eq_ok_iff, pure_eq_ok_iff]
        exact ⟨(), _, _, _, hadvance, ⟨_, _, _, _, hterm.2 hright, ⟨rfl, rfl, rfl⟩, rfl⟩,
          by rw [List.append_nil]⟩

theorem Descends.exists_current {x : Term} (h : Descends limit room s x es s') :
    ∃ t, s.current = some t ∧ ((∃ n, t.lexeme = .identifier n) ∨ t.lexeme = .opening) := by
  cases h with
  | identifier hcurrent ht => exact ⟨_, hcurrent, .inl ⟨_, ht⟩⟩
  | group hcurrent ht => exact ⟨_, hcurrent, .inr ht⟩

theorem fail_eq_ok_iff {e : ParseFailure} {x : Term}
    (hnone : ∀ t ∈ s.current, (∀ n, t.lexeme ≠ .identifier n) ∧ t.lexeme ≠ .opening) :
    (fail e : Descent Term) s = ⟨es, .ok (x, s')⟩ ↔ Descends limit room s x es s' := by
  constructor
  · rintro ⟨⟩
  · intro h
    obtain ⟨t, hcurrent, ⟨n, ht⟩ | ht⟩ := h.exists_current
    · exact absurd ht ((hnone t hcurrent).1 n)
    · exact absurd ht (hnone t hcurrent).2

/-- A simple term is delivered exactly if the descent goes through it. By recursion on the room for
groups. -/
theorem simple_eq_ok_iff (room : Nat) {s s' : ParseState} {es : List Event} {x : Term} :
    simple limit room s = ⟨es, .ok (x, s')⟩ ↔ Descends limit room s x es s' := by
  unfold simple Operations.simple
  dsimp only [operations, Makers.plain]
  rw [current_bind]
  rcases hcurrent : s.current with _ | t
  · exact fail_eq_ok_iff (by simp [hcurrent])
  dsimp only
  cases ht : t.lexeme with
  | identifier n =>
    simp only [bind_eq_ok_iff, pure_eq_ok_iff]
    constructor
    · rintro ⟨⟨⟩, s₁, pulled, _, hadvance, ⟨rfl, rfl, rfl⟩, rfl⟩
      rw [List.append_nil]
      exact .identifier hcurrent ht hadvance
    · intro h
      cases h with
      | identifier hu hx hadvance =>
        cases hcurrent.symm.trans hu
        cases ht.symm.trans hx
        exact ⟨(), _, _, _, hadvance, ⟨rfl, rfl, rfl⟩, (List.append_nil _).symm⟩
      | group hu hx =>
        cases hcurrent.symm.trans hu
        cases ht.symm.trans hx
  | opening =>
    rw [bind_eq_ok_iff]
    constructor
    · rintro ⟨⟨⟩, s₁, entering, _, henter, h, rfl⟩
      cases room with
      | zero => cases h
      | succ room =>
        simp only [bind_eq_ok_iff] at h
        obtain ⟨⟨⟩, s₂, pulled, _, hadvance, ⟨body, s₃, inside, _, hbody,
          ⟨⟨⟩, s₄, closing, _, hclose, ⟨⟨⟩, s₅, _, _, ⟨⟩, ⟨⟩, rfl⟩, rfl⟩, rfl⟩, rfl⟩ := h
        rw [List.append_nil]
        exact .group hcurrent ht henter hadvance
          ((proposition_eq_ok_iff (simple_eq_ok_iff room)).1 hbody) hclose
    · intro h
      cases h with
      | identifier hu hx =>
        cases hcurrent.symm.trans hu
        cases ht.symm.trans hx
      | group hu _ henter hadvance hbody hclose =>
        cases hcurrent.symm.trans hu
        refine ⟨(), _, _, _, henter, ?_, rfl⟩
        simp only [bind_eq_ok_iff]
        exact ⟨(), _, _, _, hadvance, ⟨_, _, _, _,
          (proposition_eq_ok_iff (simple_eq_ok_iff _)).2 hbody,
          ⟨(), _, _, _, hclose, ⟨(), _, _, _, rfl, rfl, rfl⟩, rfl⟩, rfl⟩, rfl⟩
  | negation | connective op | closing => exact fail_eq_ok_iff (by simp [hcurrent, ht])

/-- A step delivers a tree exactly if the descent goes through it. -/
theorem step_eq_ok_iff : {c : Category} → {x : Node Empty c} →
    (step limit room c s = ⟨es, .ok (x, s')⟩ ↔ Descends limit room s x es s')
  | .simple, _ => simple_eq_ok_iff room
  | .proposition, _ => proposition_eq_ok_iff (simple_eq_ok_iff room)

end Steps

end Propositional
