import Propositional.Proofs.Halting

/-!
# What a parse accepts

A parse accepts the texts whose tokens the grammar derives, as long as no more groups are nested
than the limit allows, and delivers the tree of the derivation, which is the only one.

Soundness and completeness both come from the account of the tokens (`account_of_lexemes`).
Completeness also needs that the lexemes of a tree determine the tree (`Node.lexemes_append_inj`):
two trees that begin at the same place of a list end at the same place, unless a connective goes on
with one of them.
-/

namespace Propositional

/-- The grammar derives the tokens of a text, all of which are lexed, with a tree. -/
def Derivation (text : Text) (p : Formula) : Prop :=
  ∃ ts, tokenize text 1 0 = ⟨ts, none⟩ ∧ Derives p (ts.map Token.lexeme)

/-! ## One tree for a list of lexemes -/

/-- A list of lexemes does not begin with a connective. -/
def NoConnective (xs : List Lexeme) : Prop := ∀ op, xs.head? ≠ some (.connective op)

theorem Node.lexemes_ne_negation (term : Term) (xs ys : List Lexeme) :
    term.lexemes ++ xs ≠ .negation :: ys := by
  cases term with
  | identifier n => simp [Node.lexemes]
  | group body => simp [Node.lexemes]
  | foreign e => exact e.elim

/-- Two trees that begin at the same place are the same and end at the same place, where for
propositions no connective may follow. -/
theorem Node.lexemes_append_inj : {c : Category} → (t u : Node Empty c) → {xs ys : List Lexeme} →
    (c = .proposition → NoConnective xs ∧ NoConnective ys) → t.lexemes ++ xs = u.lexemes ++ ys →
      t = u ∧ xs = ys
  | _, .identifier n, u, xs, ys => by
    intro _ h
    cases u with
    | identifier m =>
      obtain ⟨hn, hxs⟩ := List.cons.inj h
      cases hn
      exact ⟨rfl, hxs⟩
    | group body => cases h
    | foreign e => exact e.elim
  | _, .group body, u, xs, ys => by
    intro _ h
    cases u with
    | identifier m => cases h
    | group other =>
      have hclosing : ∀ zs, NoConnective (.closing :: zs) := by
        intro zs op hop
        cases hop
      simp only [Node.lexemes, List.cons_append, List.append_assoc, List.cons.injEq,
        true_and] at h
      obtain ⟨rfl, hxs⟩ :=
        body.lexemes_append_inj other (fun _ => ⟨hclosing _, hclosing _⟩) h
      exact ⟨rfl, (List.cons.inj hxs).2⟩
    | foreign e => exact e.elim
  | _, .bare term, u, xs, ys => by
    intro hend h
    cases u with
    | bare other =>
      obtain ⟨rfl, hxs⟩ := term.lexemes_append_inj other (by simp) h
      exact ⟨rfl, hxs⟩
    | negation operand => exact absurd h (term.lexemes_ne_negation _ _)
    | compound op left right =>
      rw [Node.lexemes, Node.lexemes, List.append_assoc] at h
      obtain ⟨-, hxs⟩ := term.lexemes_append_inj left (by simp) h
      exact absurd (congrArg List.head? hxs) ((hend rfl).1 op)
  | _, .negation operand, u, xs, ys => by
    intro hend h
    cases u with
    | bare other => exact absurd h.symm (other.lexemes_ne_negation _ _)
    | negation other =>
      obtain ⟨rfl, hxs⟩ := operand.lexemes_append_inj other (by simp) (List.cons.inj h).2
      exact ⟨rfl, hxs⟩
    | compound op left right =>
      rw [Node.lexemes, Node.lexemes, List.append_assoc] at h
      exact absurd h.symm (left.lexemes_ne_negation _ _)
  | _, .compound op left right, u, xs, ys => by
    intro hend h
    cases u with
    | bare other =>
      rw [Node.lexemes, Node.lexemes, List.append_assoc] at h
      obtain ⟨-, hxs⟩ := left.lexemes_append_inj other (by simp) h
      exact absurd (congrArg List.head? hxs.symm) ((hend rfl).2 op)
    | negation other =>
      rw [Node.lexemes, Node.lexemes, List.append_assoc] at h
      exact absurd h (left.lexemes_ne_negation _ _)
    | compound op' left' right' =>
      rw [Node.lexemes, Node.lexemes, List.append_assoc, List.append_assoc] at h
      obtain ⟨rfl, hxs⟩ := left.lexemes_append_inj left' (by simp) h
      obtain ⟨hop, hright⟩ := List.cons.inj hxs
      cases hop
      obtain ⟨rfl, hys⟩ := right.lexemes_append_inj right' (by simp) hright
      exact ⟨rfl, hys⟩

theorem Node.lexemes_inj {p q : Formula} (h : p.lexemes = q.lexemes) : p = q := by
  have hnil : NoConnective [] := by
    intro op hop
    cases hop
  refine (p.lexemes_append_inj q (fun _ => ⟨hnil, hnil⟩) ?_).1
  rw [h]

theorem Derivation.unique {text : Text} {p q : Formula} (hp : Derivation text p)
    (hq : Derivation text q) : p = q := by
  obtain ⟨ts, hts, hp⟩ := hp
  obtain ⟨us, hus, hq⟩ := hq
  cases hts.symm.trans hus
  exact Node.lexemes_inj ((derives_iff.1 hp).symm.trans (derives_iff.1 hq))

/-! ## Acceptance -/

variable {limit : Option Int} {text : Text} {p : Formula}

/-- The account of the lexemes of a tree ends without failure, its nesting being admitted, or at a
group that is refused. -/
theorem account_of_lexemes (limit : Option Int) (text : Text) {ts : List Token}
    (hts : ts.map Token.lexeme = p.lexemes) :
    (account limit text .start ts none).failure = none ∧ Admits limit p.nesting ∨
      ∃ read t rest, ∃ depth : Nat, ∃ e, ts = read ++ t :: rest ∧
        (depth : Int) = openGroups ((read ++ [t]).map Token.lexeme) ∧
        refusal limit depth = some e ∧ (account limit text .start ts none).failure = some e ∧
        ¬ Admits limit p.nesting := by
  obtain ⟨q, hq, hacc⟩ := Progress.run_start_lexemes p
  obtain ⟨read, rest, r, rfl, hrun, hpeak, -, hhalt⟩ := exists_halt_start limit text ts none
  rw [← hts, List.map_append, Progress.run_append, hrun, Option.bind_some] at hq
  generalize hfailure : (account limit text .start (read ++ rest) none).failure = e at hhalt ⊢
  cases hhalt with
  | accepted h =>
    refine .inl ⟨rfl, ?_⟩
    rw [List.append_nil] at hts
    rwa [hts, p.peak_lexemes] at hpeak
  | incomplete h =>
    cases hq
    rw [h] at hacc
    cases hacc
  | unexpected h =>
    rw [List.map_cons, Progress.run_cons, h] at hq
    cases hq
  | @refused t rest _ r' e ho hstep he =>
    have hdepth := depth_of_run_of_step hrun (ho.symm ▸ hstep)
    refine .inr ⟨read, t, rest, r'.depth, e, rfl, hdepth, he, rfl, fun hadmits => ?_⟩
    have hle : openGroups ((read ++ [t]).map Token.lexeme) ≤ p.nesting := by
      refine peak_le_iff.1 (Int.le_of_eq p.peak_lexemes) _ ⟨rest.map Token.lexeme, ?_⟩
      rw [← hts, ← List.map_append, ← List.append_cons]
    have hpos := Progress.depth_pos_of_step hstep
    rw [(refusal_eq_none_iff hpos).2 (hadmits.mono (hdepth ▸ hle))] at he
    cases he

theorem parse_eq_ok_iff_admits :
    (parse limit text).outcome = .ok p ↔ Derivation text p ∧ Admits limit p.nesting := by
  obtain ⟨⟨ts, f⟩, htokens⟩ : ∃ d, tokenize text 1 0 = d := ⟨_, rfl⟩
  constructor
  · intro h
    obtain ⟨e, -, hparse⟩ | ⟨p', hfailure, rfl, hts, hparse⟩ := parse_eq_account limit htokens
    · rw [hparse] at h
      cases h
    · rw [hparse] at h
      cases h
      obtain ⟨-, hadmits⟩ | ⟨_, _, _, _, e, -, -, -, he, -⟩ := account_of_lexemes limit text hts
      · exact ⟨⟨ts, htokens, derives_iff.2 hts⟩, hadmits⟩
      · rw [hfailure] at he
        cases he
  · rintro ⟨⟨us, hus, hp⟩, hadmits⟩
    cases htokens.symm.trans hus
    have hts := derives_iff.1 hp
    have hfailure : (account limit text .start ts none).failure = none := by
      obtain ⟨h, -⟩ | ⟨_, _, _, _, _, -, -, -, -, hnot⟩ := account_of_lexemes limit text hts
      · exact h
      · exact absurd hadmits hnot
    obtain ⟨e, he, -⟩ | ⟨p', -, -, hts', hparse⟩ := parse_eq_account limit htokens
    · rw [hfailure] at he
      cases he
    · rw [hparse, Node.lexemes_inj (hts.symm.trans hts')]

/-- Below the ceiling, a parse accepts exactly what the grammar derives within the limit, with the
tree of the derivation, of which a text has at most one. -/
theorem parse_eq_ok_iff_derivation (limit : Option Int) (text : Text) :
    (BelowCeiling limit text → ∀ p, (parse limit text).outcome = .ok p ↔
      Derivation text p ∧ Allows limit p.nesting) ∧
    ∀ p q, Derivation text p → Derivation text q → p = q := by
  refine ⟨fun hceiling p => ?_, fun p q hp hq => hp.unique hq⟩
  rw [parse_eq_ok_iff_admits]
  refine and_congr_right fun hp => ⟨fun h => h.2, fun h => ?_⟩
  obtain ⟨ts, htokens, hp⟩ := hp
  have hpeak : peak (ts.map Token.lexeme) = p.nesting := by
    rw [derives_iff.1 hp, p.peak_lexemes]
  rw [← hpeak] at h ⊢
  exact hceiling.admits_of_allows htokens h

/-- The formula `!(a>a)`. -/
def Formula.negatedGroup : Formula :=
  .negation (.group
    (.compound .implication (.identifier Progress.someName) (.identifier Progress.someName)))

theorem derivation_negatedGroup : Derivation "!( a >\ta)".toList .negatedGroup := by
  refine ⟨[⟨.negation, 1, 0, 1⟩, ⟨.opening, 1, 1, 2⟩, ⟨.identifier Progress.someName, 1, 3, 4⟩,
    ⟨.connective .implication, 1, 5, 6⟩, ⟨.identifier Progress.someName, 1, 7, 8⟩,
    ⟨.closing, 1, 8, 9⟩], ?_, derives_iff.2 rfl⟩
  decide +kernel

/-- It is parsed from this text where one group is allowed. -/
theorem parse_negatedGroup :
    BelowCeiling (some 1) "!( a >\ta)".toList ∧
      (parse (some 1) "!( a >\ta)".toList).outcome = .ok .negatedGroup ∧
      ∀ q, Derivation "!( a >\ta)".toList q → q = .negatedGroup := by
  have hceiling : BelowCeiling (some 1) "!( a >\ta)".toList := .inl ⟨1, rfl, by decide⟩
  obtain ⟨haccept, hunique⟩ := parse_eq_ok_iff_derivation (some 1) "!( a >\ta)".toList
  refine ⟨hceiling, (haccept hceiling _).2 ⟨derivation_negatedGroup, ?_⟩, fun q hq => ?_⟩
  · rintro m ⟨⟩
    decide
  · exact hunique q _ hq derivation_negatedGroup

end Propositional
