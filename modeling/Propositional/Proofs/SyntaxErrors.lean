import Propositional.Proofs.Trace

/-!
# What a syntax error expects

A parse fails with a syntax error where a token is not the one that must follow, or is missing at
the end of the text. What it says was expected is determined by the tokens consumed before: by the
last of them, and by whether they leave a group open (`syntaxError_expects`).

1. `Progress.Settled.step`: behind a step an operand is lacking exactly if the lexeme does not end
   one. A group that is closed leads back to a proposition that had its operands but for this group,
   which `Progress.Settled` keeps of all propositions that are waited with.
2. `Progress.expects_of_run`: so the last lexeme of a run tells whether an operand must follow. If
   not, the depth of the progress tells whether a group must be closed.
3. `filterMap_pull?_trace`: what a parse has consumed is seen from its pulls, of which only the last
   is not consumed.
-/

namespace Propositional

/-! ## What must follow some lexemes -/

def Lexeme.endsOperand : Lexeme → Bool
  | .identifier _ => true
  | .closing => true
  | _ => false

/-- What must follow some lexemes, in words: an operand at the beginning and behind a lexeme that
does not end one; otherwise the end of a group if one is open, and the end of the text if none
is. -/
inductive Expects (xs : List Lexeme) : String → Prop where
  | operand : (∀ x ∈ xs.getLast?, x.endsOperand = false) → Expects xs "identifier or '('"
  | closing {x : Lexeme} : x ∈ xs.getLast? → x.endsOperand = true →
    xs.count .closing < xs.count .opening → Expects xs "')'"
  | finish {x : Lexeme} : x ∈ xs.getLast? → x.endsOperand = true →
    xs.count .opening = xs.count .closing → Expects xs "end of input"

theorem Stage.afterOperand?_of_afterOperand? {stage after : Stage}
    (h : stage.afterOperand? = some after) : after.afterOperand? = none := by
  cases stage <;> cases h <;> rfl

namespace Progress

variable {q r : Progress} {x : Lexeme} {xs : List Lexeme}

/-- The propositions around the innermost one lack no operand once their groups are closed. -/
def Settled (q : Progress) : Prop := ∀ stage ∈ q.outer, stage.afterOperand? = none

/-- A step leaves a proposition that lacks no operand exactly if its lexeme ends one. -/
theorem Settled.step (hq : q.Settled) (h : q.step x = some r) :
    r.Settled ∧ (r.stage.afterOperand? = none ↔ x.endsOperand = true) := by
  cases x with
  | identifier n =>
    obtain ⟨after, hafter, rfl⟩ := Option.map_eq_some_iff.1 h
    exact ⟨hq, iff_of_true (Stage.afterOperand?_of_afterOperand? hafter) rfl⟩
  | negation =>
    obtain ⟨-, h⟩ := Option.ite_none_right_eq_some.1 h
    cases h
    exact ⟨hq, by simp [Stage.afterOperand?, Lexeme.endsOperand]⟩
  | connective op =>
    obtain ⟨-, h⟩ := Option.ite_none_right_eq_some.1 h
    cases h
    exact ⟨hq, by simp [Stage.afterOperand?, Lexeme.endsOperand]⟩
  | opening =>
    obtain ⟨after, hafter, rfl⟩ := Option.map_eq_some_iff.1 h
    have hsettled : Settled ⟨.fresh, after :: q.outer⟩ :=
      List.forall_mem_cons.2 ⟨Stage.afterOperand?_of_afterOperand? hafter, hq⟩
    exact ⟨hsettled, by simp [Stage.afterOperand?, Lexeme.endsOperand]⟩
  | closing =>
    simp only [Progress.step] at h
    split at h
    · rename_i after outer _ houter
      cases h
      rw [Settled, houter] at hq
      obtain ⟨hafter, hsettled⟩ := List.forall_mem_cons.1 hq
      exact ⟨hsettled, iff_of_true hafter rfl⟩
    · cases h

theorem Settled.run (hq : q.Settled) (h : q.run xs = some r) : r.Settled := by
  induction xs generalizing q with
  | nil =>
    cases h
    exact hq
  | cons x xs ih =>
    rw [run_cons] at h
    obtain ⟨p, hp, h⟩ := Option.bind_eq_some_iff.1 h
    exact ih (hq.step hp).1 h

theorem settled_start : start.Settled := by
  rintro stage ⟨⟩

theorem afterOperand?_of_run (h : start.run (xs ++ [x]) = some r) :
    r.stage.afterOperand? = none ↔ x.endsOperand = true := by
  rw [run_append] at h
  obtain ⟨p, hp, h⟩ := Option.bind_eq_some_iff.1 h
  rw [run_cons] at h
  obtain ⟨p', hstep, h⟩ := Option.bind_eq_some_iff.1 h
  cases h
  exact ((settled_start.run hp).step hstep).2

/-- Behind a run the progress expects what must follow its lexemes. -/
theorem expects_of_run (h : start.run xs = some r) : Expects xs r.expected.text := by
  have hdepth : ((r.outer.length : Nat) : Int) = 0 + openGroups xs := depth_of_run h
  rw [openGroups] at hdepth
  rcases List.eq_nil_or_concat' xs with rfl | ⟨init, x, rfl⟩
  · cases h
    exact .operand (by simp)
  have hlast : x ∈ (init ++ [x]).getLast? := List.getLast?_concat
  have hoperand := afterOperand?_of_run h
  unfold expected
  cases hx : x.endsOperand with
  | false =>
    have hsome : r.stage.afterOperand?.isSome = true := by
      rw [Option.isSome_iff_ne_none, Ne, hoperand, hx]
      exact Bool.false_ne_true
    rw [if_pos hsome]
    refine .operand fun y hy => ?_
    cases Option.mem_unique hy hlast
    exact hx
  | true =>
    have hnone : r.stage.afterOperand? = none := hoperand.2 hx
    rw [if_neg (by simp [hnone])]
    cases houter : r.outer with
    | nil =>
      rw [houter] at hdepth
      refine .finish hlast hx ?_
      simp only [List.length_nil] at hdepth
      omega
    | cons after outer =>
      rw [houter] at hdepth
      refine .closing hlast hx ?_
      simp only [List.length_cons] at hdepth
      omega

theorem text_expected_ne (h : q.accepts = false) : q.expected.text ≠ "end of input" := by
  unfold expected
  split
  · decide
  · rename_i hoperand
    split
    · rename_i houter
      unfold accepts at h
      rw [houter, Bool.and_true] at h
      exact absurd (by simpa using h) hoperand
    · decide

end Progress

/-! ## Pulls of a parse -/

/-- What is pulled in an event: a token, or the end of the text. -/
def Event.pull? : Event → Option (Option Token)
  | .pulled t => some (some t)
  | .finished _ => some none
  | _ => none

/-- What a parse has pulled, one after the other. All but the last pull is consumed. -/
def Parse.pulls (p : Parse) : List (Option Token) := p.events.filterMap Event.pull?

section Pulls

variable {text : Text} {read rest : List Token} {f : Option ForeignCharacter}

/-- The pulls of a trace are the consumed tokens and what stands behind them, unless the stream
breaks off there. -/
theorem filterMap_pull?_trace (hrest : rest = [] → f = none)
    (outcome : Except ParseFailure Formula) :
    (trace text read rest f outcome).filterMap Event.pull? = read.map some ++ [rest.head?] := by
  rw [filterMap_trace (fun _ _ => rfl) (fun _ => rfl) fun _ => rfl]
  induction read with
  | nil =>
    rcases rest with _ | ⟨t, rest⟩
    · rw [hrest rfl]
      rfl
    · rfl
  | cons t read ih => exact congrArg (List.cons (some t)) ih

end Pulls

/-! ## Syntax errors -/

/-- What a failure says was expected, if it is a syntax error. -/
def ParseFailure.expected? : ParseFailure → Option Expected
  | .unexpected expected _ => some expected
  | .incomplete expected => some expected
  | _ => none

/-- The token that a failure carries, if it carries one. -/
def ParseFailure.token? : ParseFailure → Option Token
  | .unexpected _ t => some t
  | _ => none

theorem expected?_of_refusal {limit : Option Int} {depth : Nat} {e : ParseFailure}
    (h : refusal limit depth = some e) : e.expected? = none := by
  unfold refusal at h
  split at h
  · rename_i m _
    obtain hm | hm := ParseFailure.ofLimit_cases m <;> cases hm ▸ h <;> rfl
  · obtain ⟨-, h⟩ := Option.ite_none_right_eq_some.1 h
    cases h
    rfl

/-- An account that halts for a syntax error says what its progress expects. At the end of the text
it does so only if no whole formula has been read. -/
theorem Halts.of_expected? {limit : Option Int} {q : Progress} {ts : List Token}
    {f : Option ForeignCharacter} {failure : ParseFailure} {x : Expected}
    (h : Halts limit q ts f (some failure)) (hx : failure.expected? = some x) :
    x = q.expected ∧ (failure = .incomplete x ∧ q.accepts = false ∨
      ∃ t, failure = .unexpected x t ∧ ts.head? = some t) := by
  cases h with
  | incomplete hacc =>
    cases hx
    exact ⟨rfl, .inl ⟨rfl, hacc⟩⟩
  | foreign e => cases hx
  | unexpected hstep =>
    cases hx
    exact ⟨rfl, .inr ⟨_, rfl, rfl⟩⟩
  | refused ho hstep he =>
    rw [expected?_of_refusal he] at hx
    cases hx

/-- A syntax error says that what must follow the consumed tokens was expected. It carries the token
that is found behind them, or none if the tokens end there; and then it never says that the end was
expected. -/
theorem syntaxError_expects {limit : Option Int} {text : Text} {failure : ParseFailure}
    {x : Expected} (houtcome : (parse limit text).outcome = .error failure)
    (hx : failure.expected? = some x) :
    ∃ read rest, (tokenize text 1 0).items = read ++ rest ∧
      (parse limit text).pulls = read.map some ++ [rest.head?] ∧ failure.token? = rest.head? ∧
      Expects (read.map Token.lexeme) x.text ∧
      (failure = .incomplete x ∧ rest = [] ∧ (tokenize text 1 0).failure = none ∧
          x.text ≠ "end of input" ∨
        ∃ t, failure = .unexpected x t ∧ rest.head? = some t) := by
  obtain ⟨⟨ts, f⟩, htokens⟩ : ∃ d, tokenize text 1 0 = d := ⟨_, rfl⟩
  have hceiling : (parse limit text).outcome ≠ .error .ceilingExceeded := by
    rw [houtcome]
    rintro ⟨⟩
    cases hx
  obtain ⟨read, rest, r, rfl, hhalt, -, hrun, hstops, -, hevents⟩ :=
    exists_halt_of_trace htokens hceiling
  rw [(parse_eq_error_iff htokens).1 houtcome] at hhalt
  rw [houtcome] at hstops hevents
  obtain ⟨rfl, hclass⟩ := hhalt.of_expected? hx
  rw [htokens, Parse.pulls, hevents]
  refine ⟨read, rest, rfl, ?_⟩
  obtain ⟨rfl, hacc⟩ | ⟨t, rfl, ht⟩ := hclass
  · cases hstops
    exact ⟨filterMap_pull?_trace (fun _ => rfl) _, rfl, Progress.expects_of_run hrun,
      .inl ⟨rfl, rfl, rfl, Progress.text_expected_ne hacc⟩⟩
  · have hrest : rest = [] → f = none := by
      rintro rfl
      cases ht
    exact ⟨filterMap_pull?_trace hrest _, ht.symm, Progress.expects_of_run hrun,
      .inr ⟨t, rfl, ht⟩⟩

/-- Behind a name in an open group, another name is found where the end of the group is expected. -/
theorem syntaxError_openGroup :
    (parse (some 3) "!(a a".toList).outcome =
        .error (.unexpected .closing ⟨.identifier Progress.someName, 1, 4, 5⟩) ∧
      ∃ read : List Token, (parse (some 3) "!(a a".toList).pulls =
          read.map some ++ [some ⟨.identifier Progress.someName, 1, 4, 5⟩] ∧
        Expects (read.map Token.lexeme) "')'" := by
  have htokens : tokenize "!(a a".toList 1 0 =
      ⟨[⟨.negation, 1, 0, 1⟩, ⟨.opening, 1, 1, 2⟩, ⟨.identifier Progress.someName, 1, 2, 3⟩,
        ⟨.identifier Progress.someName, 1, 4, 5⟩], none⟩ := by decide +kernel
  have houtcome : (parse (some 3) "!(a a".toList).outcome =
      .error (.unexpected .closing ⟨.identifier Progress.someName, 1, 4, 5⟩) :=
    (parse_eq_error_iff htokens).2 rfl
  obtain ⟨read, rest, -, hpulls, htoken, hexpects, -⟩ := syntaxError_expects houtcome rfl
  rw [← htoken] at hpulls
  exact ⟨houtcome, read, hpulls, hexpects⟩

end Propositional
