import Mathlib.Data.List.Chain
import Propositional.Parse.RoundTrip
import Propositional.Proofs.Acceptance
import Propositional.Proofs.Rendering

/-!
# Canonical texts

The canonical text of a tree is laid out without blanks. Its tokens are the lexemes of the tree,
since no two identifiers stand side by side in a tree (`Node.isChain_lexemes`); so the canonical
text is derived with the tree (`Node.derivation_text`) and parsed to it.

The other way round, what was parsed is the canonical text with blanks put in
(`Derivation.text_eq`), so two texts are parsed to the same tree exactly if they differ in blanks
only. `RoundTrip.ofText_eq` is both ways after one another.
-/

namespace Propositional

/-! ## Lexemes without blanks -/

/-- Two lexemes may stand side by side unless both are identifiers. -/
def Lexeme.Adjoins (x y : Lexeme) : Prop := x.kind = .identifier → y.kind ≠ .identifier

theorem exists_lexes_of_isChain (line : Int) {xs : List Lexeme} (h : xs.IsChain Lexeme.Adjoins)
    (start : Nat) :
    ∃ ts : List Token, ts.map Token.lexeme = xs ∧
      Lexes line start (xs.map Lexeme.text).flatten ⟨ts, none⟩ := by
  induction xs generalizing start with
  | nil => exact ⟨[], rfl, .done Text.isGap_nil⟩
  | cons x xs ih =>
    obtain ⟨hhead, htail⟩ := List.isChain_cons.1 h
    obtain ⟨ts, hts, hlexes⟩ := ih htail (start + x.text.length)
    have hend : x.EndsBefore (xs.map Lexeme.text).flatten := by
      intro hx c hc
      cases xs with
      | nil => cases hc
      | cons y ys =>
        obtain ⟨e, he, -, ha, -⟩ := Lexeme.exists_symbol (hhead y rfl hx)
        rw [List.map_cons, List.flatten_cons, he] at hc
        cases hc
        exact ha
    refine ⟨⟨x, line, start, start + x.text.length⟩ :: ts, congrArg (x :: ·) hts, ?_⟩
    exact .token Text.isGap_nil hend hlexes

theorem isChain_append_symbol {xs ys : List Lexeme} {x : Lexeme} (hx : x.kind ≠ .identifier)
    (hxs : xs.IsChain Lexeme.Adjoins) (hys : ys.IsChain Lexeme.Adjoins) :
    (xs ++ x :: ys).IsChain Lexeme.Adjoins := by
  refine List.isChain_append.2 ⟨hxs, List.isChain_cons.2 ⟨fun y _ h => absurd h hx, hys⟩, ?_⟩
  intro w _ y hy _
  cases hy
  exact hx

theorem Node.isChain_lexemes : {c : Category} → (t : Node Empty c) →
    t.lexemes.IsChain Lexeme.Adjoins
  | _, .identifier n => .singleton _
  | _, .group body =>
    isChain_append_symbol (x := .opening) (by simp [Lexeme.kind]) .nil
      (isChain_append_symbol (x := .closing) (by simp [Lexeme.kind]) body.isChain_lexemes .nil)
  | _, .bare term => term.isChain_lexemes
  | _, .negation operand =>
    isChain_append_symbol (x := .negation) (by simp [Lexeme.kind]) .nil operand.isChain_lexemes
  | _, .compound op left right =>
    isChain_append_symbol (x := .connective op) (by simp [Lexeme.kind]) left.isChain_lexemes
      right.isChain_lexemes

theorem Node.exists_tokens_text {c : Category} (t : Node Empty c) :
    ∃ ts, tokenize t.text 1 0 = ⟨ts, none⟩ ∧ ts.map Token.lexeme = t.lexemes := by
  obtain ⟨ts, hts, hlexes⟩ := exists_lexes_of_isChain 1 t.isChain_lexemes 0
  rw [← t.text_eq_flatten] at hlexes
  exact ⟨ts, tokenize_zero_eq_iff.2 hlexes, hts⟩

theorem Node.derivation_text (p : Formula) : Derivation p.text p := by
  obtain ⟨ts, htokens, hts⟩ := p.exists_tokens_text
  exact ⟨ts, htokens, derives_iff.2 hts⟩

/-! ## Parsing what was rendered -/

theorem parse_text_of_lt_nesting {p : Formula} {m : Int} (hm : m < Parse.assured)
    (hp : max m 0 < p.nesting) :
    (parse (some m) p.text).outcome = .error (.ofLimit m) := by
  obtain ⟨ts, htokens, hderives⟩ := p.derivation_text
  have hceiling : BelowCeiling (some m) p.text := .inl ⟨m, rfl, hm⟩
  obtain ⟨-, hadmits⟩ | ⟨read, t, rest, depth, e, rfl, hdepth, he, hfailure, -⟩ :=
    account_of_lexemes (some m) p.text (derives_iff.1 hderives)
  · exact absurd (hadmits.2 m rfl) (by omega)
  · obtain ⟨m', hm', -, rfl⟩ := hceiling.limit_of_refusal htokens hdepth he
    cases hm'
    exact (parse_eq_error_iff htokens).2 hfailure

theorem parse_text_of_allows {limit : Option Int} {p : Formula} (hlimit : Allows limit p.nesting)
    (hassured : p.nesting ≤ Parse.assured) : (parse limit p.text).outcome = .ok p := by
  refine parse_eq_ok_iff_admits.2 ⟨p.derivation_text, ?_, hlimit⟩
  have := Parse.assured_le_ceiling
  omega

/-- The canonical text of a formula is parsed to the formula, and that of a term to the bare term,
as long as the limit allows the nesting. A formula that is nested too deeply fails for the limit, or
for the writing of it where the limit has too many digits. -/
theorem parse_render (limit : Option Int) :
    (∀ p : Formula, ∃ text, p.render = .ok text ∧
      (Allows limit p.nesting → p.nesting ≤ Parse.assured → (parse limit text).outcome = .ok p) ∧
      ∀ m, limit = some m → m < Parse.assured → max m 0 < p.nesting →
        (Text.isWritable m = true → (parse limit text).outcome = .error (.limitExceeded m)) ∧
        (Text.isWritable m = false → (parse limit text).outcome = .error .limitUnwritable)) ∧
    ∀ s : Term, ∃ text, s.render = .ok text ∧
      (Allows limit s.nesting → s.nesting ≤ Parse.assured →
        (parse limit text).outcome = .ok (.bare s)) := by
  refine ⟨fun p => ⟨p.text, p.render_eq, parse_text_of_allows, ?_⟩, fun s => ?_⟩
  · rintro m rfl hm hp
    have hfails := parse_text_of_lt_nesting hm hp
    refine ⟨fun hwritable => ?_, fun hunwritable => ?_⟩
    · rw [hfails, ParseFailure.ofLimit_of_isWritable hwritable]
    · rw [hfails, ParseFailure.ofLimit_of_not hunwritable]
  · exact ⟨s.text, s.render_eq, fun h ha => parse_text_of_allows (p := .bare s) h ha⟩

/-- The canonical text of a formula with one group is parsed where one group is allowed, and is too
deep where none is. -/
theorem parse_render_negatedGroup :
    (parse (some 1) "!(a>a)".toList).outcome = .ok .negatedGroup ∧
      (parse (some 0) "!(a>a)".toList).outcome = .error (.limitExceeded 0) ∧
      (parse none "(a)".toList).outcome =
        .ok (.bare (.group (.bare (.identifier Progress.someName)))) := by
  obtain ⟨one, hone, hparse, -⟩ := (parse_render (some 1)).1 .negatedGroup
  obtain ⟨zero, hzero, -, hdeep⟩ := (parse_render (some 0)).1 .negatedGroup
  obtain ⟨text, htext, hterm⟩ :=
    (parse_render none).2 (.group (.bare (.identifier Progress.someName)))
  rw [Node.render_eq] at hone hzero htext
  cases hone
  cases hzero
  cases htext
  refine ⟨hparse ?_ (by decide), ?_, hterm ?_ (by decide)⟩
  · rintro m ⟨⟩
    decide
  · exact (hdeep 0 rfl (by decide) (by decide)).1 (by decide)
  · rintro m ⟨⟩

/-- It is not enough that the nesting exceeds the limit: a formula without groups is parsed for a
negative limit. Nor is it enough that the formula is nested too deeply: a limit with too many digits
cannot be quoted. -/
theorem not_forall_parse_of_lt_nesting :
    (¬ ∀ (p : Formula) (m : Int) (text : Text), m < Parse.assured → m < p.nesting →
      p.render = .ok text → (parse (some m) text).outcome = .error (.limitExceeded m)) ∧
    ¬ ∀ (p : Formula) (m : Int) (text : Text), m < Parse.assured → max m 0 < p.nesting →
      p.render = .ok text → (parse (some m) text).outcome = .error (.limitExceeded m) := by
  constructor
  · intro h
    have hfails := h (.bare (.identifier Progress.someName)) (-1) ['a'] (by decide) (by decide)
      (Node.render_eq _)
    have hparse : (parse (some (-1)) ['a']).outcome =
        .ok (.bare (.identifier Progress.someName)) := by
      refine parse_text_of_allows (p := .bare (.identifier Progress.someName)) ?_ (by decide)
      rintro m ⟨⟩
      decide
    cases hparse.symm.trans hfails
  · intro h
    have hp : max unwritableLimit 0 < Formula.negatedGroup.nesting := by
      have hneg := unwritableLimit_neg
      have hone : Formula.negatedGroup.nesting = 1 := by decide
      omega
    have hfails := h .negatedGroup _ _ unwritableLimit_lt_assured hp (Node.render_eq _)
    rw [parse_text_of_lt_nesting unwritableLimit_lt_assured hp,
      ParseFailure.ofLimit_of_not isWritable_unwritableLimit] at hfails
    cases hfails

/-! ## Rendering what was parsed -/

theorem Node.map_injective {α β : Type} {f : α → β} (hf : Function.Injective f) :
    {c : Category} → (t u : Node α c) → t.map f = u.map f → t = u
  | _, .identifier n, u => by
    intro h
    cases u <;> cases h
    rfl
  | _, .group body, u => by
    intro h
    cases u with
    | group other => rw [map_injective hf body other (Node.group.inj h)]
    | _ => cases h
  | _, .foreign e, u => by
    intro h
    cases u with
    | foreign e' => rw [hf (Node.foreign.inj h)]
    | _ => cases h
  | _, .bare term, u => by
    intro h
    cases u with
    | bare other => rw [map_injective hf term other (Node.bare.inj h)]
    | _ => cases h
  | _, .negation operand, u => by
    intro h
    cases u with
    | negation other => rw [map_injective hf operand other (Node.negation.inj h)]
    | _ => cases h
  | _, .compound op left right, u => by
    intro h
    cases u with
    | compound op' left' right' =>
      obtain ⟨rfl, hleft, hright⟩ := Node.compound.inj h
      rw [map_injective hf left left' hleft, map_injective hf right right' hright]
    | _ => cases h

theorem Formula.compare_eq (p q : Formula) :
    Formula.compare p q = if p = q then ⟨true, some true, 1⟩ else ⟨false, none, 2⟩ := by
  have hkey : ∀ {p q : Formula}, Key.node p.embed.any = Key.node q.embed.any ↔ p = q := by
    refine fun {p q} => ⟨fun h => ?_, fun h => by rw [h]⟩
    have hnode : (p.embed : Node Stray .proposition) = q.embed := by
      simpa [Node.any] using h
    exact Node.map_injective (fun e => e.elim) p q hnode
  unfold Formula.compare Key.compare
  by_cases h : p = q
  · rw [if_pos h, h]
    simp [List.eraseDups_cons]
  · rw [if_neg h]
    have h' : q ≠ p := fun hq => h hq.symm
    simp [hkey, h, h', List.eraseDups_cons]

theorem Derivation.text_eq {text : Text} {p : Formula} (h : Derivation text p) :
    p.text = text.withoutBlanks := by
  obtain ⟨ts, htokens, hp⟩ := h
  have hlexes : Lexes 1 0 text ⟨ts, none⟩ := tokenize_zero_eq_iff.1 htokens
  rw [p.text_eq_flatten, ← derives_iff.1 hp, List.map_map]
  exact (hlexes.withoutBlanks_eq rfl).symm

/-- The canonical text of what was parsed is the text without its blanks, so the formulas parsed
from two texts are the same exactly if the texts differ in blanks only. -/
theorem render_of_parse :
    (∀ limit text p, (parse limit text).outcome = .ok p → p.render = .ok text.withoutBlanks) ∧
    ∀ limit limit' text text' p p', (parse limit text).outcome = .ok p →
      (parse limit' text').outcome = .ok p' →
        Formula.compare p p' =
          if text.withoutBlanks = text'.withoutBlanks then ⟨true, some true, 1⟩
          else ⟨false, none, 2⟩ := by
  constructor
  · intro limit text p h
    rw [p.render_eq, (parse_eq_ok_iff_admits.1 h).1.text_eq]
  · intro limit limit' text text' p p' h h'
    have htext := (parse_eq_ok_iff_admits.1 h).1.text_eq
    have htext' := (parse_eq_ok_iff_admits.1 h').1.text_eq
    rw [Formula.compare_eq, ← htext, ← htext']
    refine if_congr ⟨fun hp => by rw [hp], fun hp => ?_⟩ rfl rfl
    -- both trees are derived from the one canonical text
    exact p.derivation_text.unique (hp ▸ p'.derivation_text)

/-- A text with blanks and the canonical text of the same formula. -/
theorem render_of_parse_negatedGroup :
    (parse (some 1) "!( a >\ta)".toList).outcome = .ok .negatedGroup ∧
      (parse none "!(a>a)".toList).outcome = .ok .negatedGroup ∧
      Formula.negatedGroup.render = .ok "!(a>a)".toList ∧
      Formula.compare .negatedGroup .negatedGroup = ⟨true, some true, 1⟩ := by
  have hone : (parse (some 1) "!( a >\ta)".toList).outcome = .ok .negatedGroup := by
    refine parse_eq_ok_iff_admits.2 ⟨derivation_negatedGroup, by decide, ?_⟩
    rintro m ⟨⟩
    decide
  have hnone : (parse none "!(a>a)".toList).outcome = .ok .negatedGroup := by
    refine parse_text_of_allows (p := .negatedGroup) ?_ (by decide)
    rintro m ⟨⟩
  obtain ⟨hrender, hcompare⟩ := render_of_parse
  refine ⟨hone, hnone, hrender _ _ _ hone, ?_⟩
  exact (hcompare _ _ _ _ _ _ hone hnone).trans (if_pos (by decide))

/-! ## Round trips -/

section RoundTrips

variable {text : Text} {p : Formula}

theorem parse_text_of_parse
    (h : (parse (some Parse.defaultLimit) text).outcome = .ok p) :
    (parse (some Parse.defaultLimit) p.text).outcome = .ok p := by
  obtain ⟨-, -, hallows⟩ := parse_eq_ok_iff_admits.1 h
  have hlimit : (p.nesting : Int) ≤ 200 := hallows _ rfl
  have hassured : p.nesting ≤ 400 := by omega
  exact parse_text_of_allows hallows hassured

/-- A text that is parsed makes the round trip: what is written of the formula, and of the formula
that is parsed from that, is the text without its blanks, and the two formulas are the same. A text
that is not parsed fails at once. -/
theorem RoundTrip.ofText_eq (text : Text) :
    RoundTrip.ofText text =
      match (parse (some Parse.defaultLimit) text).outcome with
      | .ok _ => .ok ⟨text.withoutBlanks, text.withoutBlanks, ⟨true, some true, 1⟩⟩
      | .error e => .error (.parse e) := by
  cases hparse : (parse (some Parse.defaultLimit) text).outcome with
  | error e =>
    unfold ofText read
    rw [hparse]
    rfl
  | ok p =>
    have hread : read text = .ok p := by
      unfold read
      rw [hparse]
      rfl
    have hagain : read p.text = .ok p := by
      unfold read
      rw [parse_text_of_parse hparse]
      rfl
    have hwrite : write p = .ok p.text := by
      unfold write
      rw [p.render_eq]
      rfl
    have htext : p.text = text.withoutBlanks := (parse_eq_ok_iff_admits.1 hparse).1.text_eq
    have hcompare : Formula.compare p p = ⟨true, some true, 1⟩ := by
      rw [Formula.compare_eq, if_pos rfl]
    rw [← htext, ← hcompare]
    simp only [ofText, hread, hwrite, hagain, bind, Except.bind, pure, Except.pure]

end RoundTrips

end Propositional
