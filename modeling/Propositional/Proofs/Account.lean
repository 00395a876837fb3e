import Propositional.Parse
import Propositional.Proofs.Layout
import Propositional.Proofs.Progress

/-!
# The account of a parse

What a parse records and how it ends, read off the tokens alone. `account` goes through the tokens
with a progress; it knows neither trees nor recursion.

`parse_eq_account`: a parse records what the account says and fails exactly if it does and in the
same way; a formula that it delivers has the tokens as its lexemes.

1. `Standing` relates a state of the descent to a progress and to the tokens that are left.
2. `Tells` relates a step of the descent to the account: the step fails as the account does, or it
   leaves a standing from which the account goes on. `Tells.bind` composes steps.
3. The steps of the grammar are told one by one (`tells_closing`, `tells_proposition`,
   `tells_opening`, `tells_term`), and together by induction on the room (`tells_simple`).
-/

namespace Propositional

/-! ## Accounts -/

/-- What is recorded, and the failure at the end, if there is one. -/
structure Account where
  events : List Event
  failure : Option ParseFailure

def Account.after (events : List Event) (a : Account) : Account := ⟨events ++ a.events, a.failure⟩

def Progress.expected (q : Progress) : Expected :=
  if q.stage.afterOperand?.isSome then .operand else if q.outer.isEmpty then .finish else .closing

/-- Why no group may be opened at a depth, if there is a reason. -/
def refusal (limit : Option Int) (depth : Nat) : Option ParseFailure :=
  match limit.filter fun m => m < (depth : Int) with
  | some m => some (.ofLimit m)
  | none => if Parse.ceiling < depth then some .ceilingExceeded else none

/-- The events of a pull before some tokens, after which a stream breaks off or ends. -/
def pulls (text : Text) : List Token → Option ForeignCharacter → List Event
  | t :: _, _ => [.pulled t]
  | [], none => [.finished text.length]
  | [], some _ => []

/-- The events of leaving a group, whose closing parenthesis stands before some tokens. It is left
only after the next pull, which may fail. -/
def leaves (depth : Nat) : List Token → Option ForeignCharacter → List Event
  | [], some _ => []
  | _, _ => [.left depth]

/-- The account of the tokens `ts`, after which the stream breaks off at `f` or ends, from a
progress on. -/
def account (limit : Option Int) (text : Text) :
    Progress → List Token → Option ForeignCharacter → Account
  | _, [], some e => ⟨[], some (.foreign e)⟩
  | q, [], none => ⟨[], if q.accepts then none else some (.incomplete q.expected)⟩
  | q, t :: ts, f =>
    match q.step t.lexeme with
    | none => ⟨[], some (.unexpected q.expected t)⟩
    | some r =>
      let rest := account limit text r ts f
      match t.lexeme with
      | .opening =>
        match refusal limit r.depth with
        | some e => ⟨[.entered r.depth t.index], some e⟩
        | none => rest.after ([.entered r.depth t.index] ++ pulls text ts f)
      | .closing => rest.after (pulls text ts f ++ leaves q.depth ts f)
      | _ => rest.after (pulls text ts f)

section Equations

variable {limit : Option Int} {text : Text} {q r : Progress} {t : Token} {ts : List Token}
  {f : Option ForeignCharacter}

theorem Account.after_after (a : Account) (es es' : List Event) :
    (a.after es').after es = a.after (es ++ es') := by
  simp only [after, List.append_assoc]

theorem account_of_step_eq_none (h : q.step t.lexeme = none) :
    account limit text q (t :: ts) f = ⟨[], some (.unexpected q.expected t)⟩ := by
  simp only [account, h]

theorem account_of_step (h : q.step t.lexeme = some r) (ho : t.lexeme ≠ .opening)
    (hc : t.lexeme ≠ .closing) :
    account limit text q (t :: ts) f = (account limit text r ts f).after (pulls text ts f) := by
  simp only [account, h]

theorem account_of_refusal {e : ParseFailure} (ht : t.lexeme = .opening)
    (h : q.step .opening = some r) (he : refusal limit r.depth = some e) :
    account limit text q (t :: ts) f = ⟨[.entered r.depth t.index], some e⟩ := by
  simp only [account, ht, h, he]

theorem account_of_opening (ht : t.lexeme = .opening) (h : q.step .opening = some r)
    (he : refusal limit r.depth = none) :
    account limit text q (t :: ts) f =
      (account limit text r ts f).after ([.entered r.depth t.index] ++ pulls text ts f) := by
  simp only [account, ht, h, he]

theorem account_of_closing (ht : t.lexeme = .closing) (h : q.step .closing = some r) :
    account limit text q (t :: ts) f =
      (account limit text r ts f).after (pulls text ts f ++ leaves q.depth ts f) := by
  simp only [account, ht, h]

/-- At a token an account stops because no formula goes on with the token, stops because a group is
refused, or takes the token in. -/
theorem step_cases (limit : Option Int) (q : Progress) (t : Token) :
    q.step t.lexeme = none ∨
      (∃ r e, t.lexeme = .opening ∧ q.step .opening = some r ∧
        refusal limit r.depth = some e) ∨
      ∃ r, q.step t.lexeme = some r ∧ (t.lexeme = .opening → refusal limit r.depth = none) := by
  rcases hstep : q.step t.lexeme with _ | r
  · exact .inl rfl
  by_cases ho : t.lexeme = .opening
  · rcases he : refusal limit r.depth with _ | e
    · exact .inr (.inr ⟨r, rfl, fun _ => he⟩)
    · exact .inr (.inl ⟨r, e, ho, ho ▸ hstep, he⟩)
  · exact .inr (.inr ⟨r, rfl, fun h => absurd h ho⟩)

/-- A proposition that is one operand so far goes on like a complete one unless a connective
follows. -/
theorem account_bare {outer : List Stage}
    (h : Parse.connective? ts.head? = none) :
    account limit text ⟨.bare, outer⟩ ts f = account limit text ⟨.complete, outer⟩ ts f := by
  cases ts with
  | nil => cases f <;> rfl
  | cons t ts =>
    have hstep : (⟨.bare, outer⟩ : Progress).step t.lexeme =
        (⟨.complete, outer⟩ : Progress).step t.lexeme := by
      cases ht : t.lexeme with
      | connective op => simp [Parse.connective?, ht] at h
      | _ => rfl
    simp only [account, hstep]
    rfl

end Equations

/-! ## Courses -/

def Course.after {β : Type} (events : List Event) (c : Course β) : Course β :=
  ⟨events ++ c.events, c.outcome⟩

namespace Descent

variable {β γ : Type} {s s' : ParseState} {es : List Event} {m : Descent β} {k : β → Descent γ}

theorem bind_of_ok {b : β} (h : m s = ⟨es, .ok (b, s')⟩) : (m >>= k) s = (k b s').after es := by
  change andThen m k s = _
  simp only [andThen, h]
  rfl

theorem bind_of_error {e : ParseFailure} (h : m s = ⟨es, .error e⟩) :
    (m >>= k) s = ⟨es, .error e⟩ := by
  change andThen m k s = _
  simp only [andThen, h]

theorem current_bind {k : Option Token → Descent γ} : (current >>= k) s = k s.current s := rfl

end Descent

/-! ## Standings -/

/-- A state of the descent has the tokens `ts` ahead of it, after which the stream breaks off at `f`
or ends: the first of them is current, and the cursor is just past it. -/
def Ahead (s : ParseState) : List Token → Option ForeignCharacter → Prop
  | t :: ts, f => s.current = some t ∧ s.cursor = t.stop ∧ tokenize s.text 1 t.stop = ⟨ts, f⟩
  | [], none => s.current = none ∧ s.cursor = s.text.length
  | [], some _ => False

/-- A state of the descent in a text stands at a progress, with tokens ahead. -/
structure Standing (text : Text) (q : Progress) (ts : List Token) (f : Option ForeignCharacter)
    (s : ParseState) : Prop where
  text_eq : s.text = text
  depth_eq : s.depth = q.depth
  ahead : Ahead s ts f

theorem Ahead.current_eq {s : ParseState} {ts : List Token} {f : Option ForeignCharacter}
    (h : Ahead s ts f) : s.current = ts.head? := by
  cases ts with
  | cons t ts => exact h.1
  | nil =>
    cases f with
    | none => exact h.1
    | some e => exact h.elim

theorem Ahead.of_depth {s : ParseState} {ts : List Token} {f : Option ForeignCharacter}
    {depth : Nat} (h : Ahead s ts f) : Ahead { s with depth := depth } ts f := by
  cases ts with
  | cons t ts => exact h
  | nil =>
    cases f with
    | none => exact h
    | some e => exact h

theorem advance_cases {s : ParseState} {n : Nat} {ts : List Token} {f : Option ForeignCharacter}
    (hcursor : s.cursor = n) (htokens : tokenize s.text 1 n = ⟨ts, f⟩) :
    (∃ e, ts = [] ∧ f = some e ∧ Descent.advance s = ⟨[], .error (.foreign e)⟩) ∨
      ∃ s', Descent.advance s = ⟨pulls s.text ts f, .ok ((), s')⟩ ∧ Ahead s' ts f ∧
        s'.text = s.text ∧ s'.depth = s.depth := by
  unfold Descent.advance nextToken
  rw [hcursor]
  cases hpull : pull 1 s.text n with
  | finished =>
    rw [tokenize_of_finished hpull] at htokens
    cases htokens
    exact .inr ⟨_, rfl, ⟨rfl, rfl⟩, rfl, rfl⟩
  | foreign e =>
    rw [tokenize_of_foreign hpull] at htokens
    cases htokens
    exact .inl ⟨e, rfl, rfl, rfl⟩
  | token t =>
    rw [tokenize_of_token hpull] at htokens
    cases htokens
    have hstop : t.cursor = t.stop := (pullAt_progress hpull).2.1
    exact .inr ⟨_, rfl, ⟨rfl, hstop, rfl⟩, rfl, rfl⟩

/-! ## Steps of the descent and the account -/

section Tells

variable (limit : Option Int) (text : Text)

/-- A course of the descent, begun at a progress with tokens ahead, tells what the account says: it
fails as the account does, or it leaves a standing from which the account goes on, where the goal
relates the result, the progress and the lexemes that were read. -/
inductive Tells {β : Type} (q : Progress) (ts : List Token) (f : Option ForeignCharacter)
    (goal : β → Progress → List Lexeme → Prop) : Course β → Prop
  | failed {events : List Event} {e : ParseFailure} :
    account limit text q ts f = ⟨events, some e⟩ → Tells q ts f goal ⟨events, .error e⟩
  | passed {events : List Event} {b : β} {s : ParseState} {r : Progress} {read rest : List Token} :
    ts = read ++ rest → goal b r (read.map Token.lexeme) → Standing text r rest f s →
      account limit text q ts f = (account limit text r rest f).after events →
        Tells q ts f goal ⟨events, .ok (b, s)⟩

variable {limit text} {β γ : Type} {q r : Progress} {t : Token} {ts : List Token}
  {f : Option ForeignCharacter} {s : ParseState} {es : List Event}
  {goal : β → Progress → List Lexeme → Prop}

theorem Tells.pure {b : β} (hs : Standing text q ts f s) (hgoal : goal b q []) :
    Tells limit text q ts f goal ((Pure.pure b : Descent β) s) :=
  .passed (List.nil_append ts).symm hgoal hs rfl

theorem Tells.incomplete {x : Expected} (hq : q.accepts = false) (hx : q.expected = x) :
    Tells limit text q [] none goal ⟨[], .error (.incomplete x)⟩ := by
  refine .failed ?_
  rw [account, hq, hx]
  rfl

theorem Tells.unexpected {x : Expected} (hq : q.step t.lexeme = none) (hx : q.expected = x) :
    Tells limit text q (t :: ts) f goal ⟨[], .error (.unexpected x t)⟩ := by
  refine .failed ?_
  rw [account_of_step_eq_none hq, hx]

theorem Tells.cons {c : Course β}
    (ha : account limit text q (t :: ts) f = (account limit text r ts f).after es)
    (hc : Tells limit text r ts f (fun b p xs => goal b p (t.lexeme :: xs)) c) :
    Tells limit text q (t :: ts) f goal (c.after es) := by
  cases hc with
  | failed h =>
    refine .failed ?_
    rw [ha, h]
    rfl
  | @passed _ _ _ _ read rest hts hgoal hs h =>
    have hts' : t :: ts = t :: read ++ rest := congrArg _ hts
    refine .passed hts' hgoal hs ?_
    rw [ha, h, Account.after_after]

theorem Tells.bind {m : Descent β} {k : β → Descent γ} {goal' : γ → Progress → List Lexeme → Prop}
    (hm : Tells limit text q ts f goal (m s))
    (hk : ∀ {b r xs rest s'}, goal b r xs → Standing text r rest f s' →
      Tells limit text r rest f (fun c p ys => goal' c p (xs ++ ys)) (k b s')) :
    Tells limit text q ts f goal' ((m >>= k) s) := by
  generalize hc : m s = c at hm
  cases hm with
  | failed h =>
    rw [Descent.bind_of_error hc]
    exact .failed h
  | @passed events b s' r read rest hts hgoal hs h =>
    rw [Descent.bind_of_ok hc]
    have hrest := hk hgoal hs
    generalize k b s' = c' at hrest
    cases hrest with
    | failed h' =>
      refine .failed ?_
      rw [h, h']
      rfl
    | @passed _ _ _ _ read' rest' hts' hgoal' hs' h' =>
      have hread : ts = read ++ read' ++ rest' := by rw [hts, hts', List.append_assoc]
      refine .passed hread ?_ hs' ?_
      · rwa [List.map_append]
      · rw [h, h', Account.after_after]

theorem Tells.advance {k : Unit → Descent β} (hs : Ahead s (t :: ts) f) (htext : s.text = text)
    (hdepth : s.depth = r.depth)
    (ha : account limit text q (t :: ts) f =
      (account limit text r ts f).after (es ++ pulls text ts f))
    (hk : ∀ {s'}, Standing text r ts f s' →
      Tells limit text r ts f (fun b p xs => goal b p (t.lexeme :: xs)) (k () s')) :
    Tells limit text q (t :: ts) f goal (((Descent.advance >>= k) s).after es) := by
  obtain ⟨-, hcursor, htokens⟩ := hs
  obtain ⟨e, rfl, rfl, hadvance⟩ | ⟨s', hadvance, hahead, htext', hdepth'⟩ :=
    advance_cases hcursor htokens
  · rw [Descent.bind_of_error hadvance]
    refine .failed ?_
    rw [ha]
    simp [pulls, account, Account.after]
  · rw [Descent.bind_of_ok hadvance]
    have hstanding : Standing text r ts f s' :=
      ⟨htext'.trans htext, hdepth'.trans hdepth, hahead⟩
    rw [htext] at hadvance ⊢
    have hcourse : ((k () s').after (pulls text ts f)).after es =
        (k () s').after (es ++ pulls text ts f) := by
      simp only [Course.after, List.append_assoc]
    rw [hcourse]
    exact .cons ha (hk hstanding)

theorem Tells.advance_of_step {k : Unit → Descent β} (hs : Standing text q (t :: ts) f s)
    (hq : q.step t.lexeme = some r) (ho : t.lexeme ≠ .opening) (hc : t.lexeme ≠ .closing)
    (hk : ∀ {s'}, Standing text r ts f s' →
      Tells limit text r ts f (fun b p xs => goal b p (t.lexeme :: xs)) (k () s')) :
    Tells limit text q (t :: ts) f goal ((Descent.advance >>= k) s) := by
  have hdepth : s.depth = r.depth := by
    have hr := Progress.depth_of_step hq
    rw [openGroups_symbol ho hc] at hr
    rw [hs.depth_eq]
    omega
  have h : Tells limit text q (t :: ts) f goal (((Descent.advance >>= k) s).after []) :=
    .advance hs.ahead hs.text_eq hdepth (account_of_step hq ho hc) hk
  exact h

/-! ## The steps of the grammar -/

open Parse Descent

theorem closeGroup_of_current (limit : Option Int) (h : s.current = some t) :
    closeGroup limit s =
      if t.lexeme = .closing then advance s else fail (.unexpected .closing t) s := by
  unfold closeGroup Operations.closeGroup
  dsimp only [operations]
  rw [current_bind, h]
  dsimp only
  split <;> rfl

/-- The end of a group is told: the closing parenthesis, the next pull, and that the group is
left. -/
theorem tells_closing {after : Stage} {outer : List Stage} {b : β}
    (hs : Standing text ⟨.complete, after :: outer⟩ ts f s)
    (hgoal : goal b ⟨after, outer⟩ [.closing]) :
    Tells limit text ⟨.complete, after :: outer⟩ ts f goal
      ((closeGroup limit >>= fun _ => leave >>= fun _ => Pure.pure b) s) := by
  obtain ⟨htext, hdepth, hahead⟩ := hs
  rcases ts with _ | ⟨t, ts⟩
  · cases f with
    | some e => exact hahead.elim
    | none =>
      have hclose : closeGroup limit s = fail (.incomplete .closing) s := by
        unfold closeGroup Operations.closeGroup
        dsimp only [operations]
        rw [current_bind, hahead.1]
      rw [bind_of_error hclose]
      exact .incomplete rfl rfl
  · have hclose := closeGroup_of_current limit hahead.1
    by_cases ht : t.lexeme = .closing
    · rw [if_pos ht] at hclose
      have ha : account limit text ⟨.complete, after :: outer⟩ (t :: ts) f =
          (account limit text ⟨after, outer⟩ ts f).after
            (pulls text ts f ++ leaves (outer.length + 1) ts f) := account_of_closing ht rfl
      obtain ⟨e, rfl, rfl, hadvance⟩ | ⟨s', hadvance, hahead', htext', hdepth'⟩ :=
        advance_cases hahead.2.1 hahead.2.2
      · rw [hadvance] at hclose
        rw [bind_of_error hclose]
        exact .failed ha
      · rw [hadvance] at hclose
        rw [bind_of_ok hclose]
        have hleaves : leaves (outer.length + 1) ts f = [.left s'.depth] := by
          rw [hdepth', hdepth]
          cases ts with
          | cons u ts => rfl
          | nil =>
            cases f with
            | none => rfl
            | some e => exact hahead'.elim
        have hstanding : Standing text ⟨after, outer⟩ ts f { s' with depth := s'.depth - 1 } := by
          refine ⟨htext'.trans htext, ?_, hahead'.of_depth⟩
          show s'.depth - 1 = outer.length
          rw [hdepth', hdepth]
          rfl
        refine .passed (show t :: ts = [t] ++ ts from rfl) ?_ hstanding ?_
        · rwa [List.map_singleton, ht]
        · rw [ha, hleaves, htext]
          rfl
    · rw [if_neg ht] at hclose
      rw [bind_of_error hclose]
      refine .unexpected ?_ rfl
      cases hx : t.lexeme with
      | closing => exact absurd hx ht
      | _ => rfl

variable (limit text) in
/-- A step tells simple terms at a depth: it takes a progress that waits for an operand past the
operand. A mark of negation must not stand where a proposition could begin with it. -/
def TellsTerms (depth : Nat) (step : Descent Term) : Prop :=
  ∀ {q : Progress} {after : Stage} {ts : List Token} {f : Option ForeignCharacter} {s : ParseState},
    q.depth = depth → q.stage.afterOperand? = some after →
      (q.stage = .fresh → ∀ t ∈ ts.head?, t.lexeme ≠ .negation) → Standing text q ts f s →
        Tells limit text q ts f (fun term r xs => r = ⟨after, q.outer⟩ ∧ xs = term.lexemes) (step s)

theorem lexeme_of_connective? {op : Connective} (h : connective? (some t) = some op) :
    t.lexeme = .connective op := by
  unfold connective? at h
  split at h
  · rename_i hx
    cases h
    exact Option.some.inj hx
  · cases h

theorem tells_proposition {outer : List Stage} {step : Descent Term}
    (hstep : TellsTerms limit text outer.length step) (hs : Standing text ⟨.fresh, outer⟩ ts f s) :
    Tells limit text ⟨.fresh, outer⟩ ts f
      (fun formula r xs => r = ⟨.complete, outer⟩ ∧ xs = formula.lexemes)
      (proposition limit step s) := by
  unfold proposition Operations.proposition
  dsimp only [operations, Makers.plain]
  rw [current_bind, hs.ahead.current_eq]
  split
  · rename_i hneg
    rcases ts with _ | ⟨t, ts⟩
    · cases hneg
    have ht : t.lexeme = .negation := Option.some.inj hneg
    refine .advance_of_step hs (r := ⟨.pending, outer⟩) (by rw [ht]; rfl) (by simp [ht])
      (by simp [ht]) fun hs' => ?_
    refine (hstep rfl rfl (by simp) hs').bind ?_
    rintro operand r xs rest s' ⟨rfl, rfl⟩ hs'
    refine .pure hs' ⟨rfl, ?_⟩
    rw [ht, List.append_nil]
    rfl
  · rename_i hneg
    have hhead : ∀ t ∈ ts.head?, t.lexeme ≠ .negation := by
      intro t ht h
      rw [Option.mem_def.1 ht, Option.map_some, h] at hneg
      exact hneg rfl
    refine (hstep rfl rfl (fun _ => hhead) hs).bind ?_
    rintro left r xs rest s' ⟨rfl, rfl⟩ hs'
    rw [current_bind, hs'.ahead.current_eq]
    cases hop : connective? rest.head? with
    | none =>
      exact .passed (List.nil_append rest).symm ⟨rfl, List.append_nil _⟩
        ⟨hs'.text_eq, hs'.depth_eq, hs'.ahead⟩ (account_bare hop)
    | some op =>
      rcases rest with _ | ⟨t, rest⟩
      · cases hop
      have ht := lexeme_of_connective? hop
      refine .advance_of_step hs' (r := ⟨.pending, outer⟩) (by rw [ht]; rfl) (by simp [ht])
        (by simp [ht]) fun hs'' => ?_
      refine (hstep rfl rfl (by simp) hs'').bind ?_
      rintro right r xs rest s'' ⟨rfl, rfl⟩ hs''
      refine .pure hs'' ⟨rfl, ?_⟩
      rw [ht, List.append_nil]
      rfl

theorem enter_cases (limit : Option Int) (index : Int) (s : ParseState) :
    (∃ m, (limit.filter fun m => m < ((s.depth + 1 : Nat) : Int)) = some m ∧
      enter limit index s = ⟨[.entered (s.depth + 1) index], .error (.ofLimit m)⟩) ∨
    ((limit.filter fun m => m < ((s.depth + 1 : Nat) : Int)) = none ∧
      enter limit index s =
        ⟨[.entered (s.depth + 1) index], .ok ((), { s with depth := s.depth + 1 })⟩) := by
  cases hlimit : limit.filter fun m => m < ((s.depth + 1 : Nat) : Int) with
  | some m => exact .inl ⟨m, rfl, by simp only [enter, hlimit]⟩
  | none => exact .inr ⟨rfl, by simp only [enter, hlimit]⟩

/-- A group is told if the terms in it are. The room that is left and the groups that are open make
up the ceiling, so the room runs out exactly where the account refuses a group for the ceiling. -/
theorem tells_opening {room : Nat} {after : Stage} (hroom : room + q.depth = ceiling)
    (hbody : ∀ room', room = room' + 1 → TellsTerms limit text (q.depth + 1) (simple limit room'))
    (hafter : q.stage.afterOperand? = some after) (ht : t.lexeme = .opening)
    (hs : Standing text q (t :: ts) f s) :
    Tells limit text q (t :: ts) f (fun term r xs => r = ⟨after, q.outer⟩ ∧ xs = term.lexemes)
      (simple limit room s) := by
  have hstep : q.step .opening = some ⟨.fresh, after :: q.outer⟩ := by
    rw [Progress.step, hafter]
    rfl
  have hdepth : s.depth + 1 = (⟨.fresh, after :: q.outer⟩ : Progress).depth :=
    congrArg (· + 1) hs.depth_eq
  unfold simple Operations.simple
  dsimp only [operations, Makers.plain]
  rw [current_bind, hs.ahead.current_eq]
  dsimp only [List.head?_cons]
  rw [ht]
  dsimp only
  obtain ⟨m, hlimit, henter⟩ | ⟨hlimit, henter⟩ := enter_cases limit t.index s
  · rw [bind_of_error henter, hdepth]
    refine .failed (account_of_refusal ht hstep ?_)
    rw [← hdepth, refusal, hlimit]
  rw [bind_of_ok henter, hdepth]
  cases room with
  | zero =>
    refine .failed (account_of_refusal ht hstep ?_)
    rw [← hdepth, refusal, hlimit]
    exact if_pos (by rw [hs.depth_eq]; omega)
  | succ room =>
    have hadmitted : refusal limit (⟨.fresh, after :: q.outer⟩ : Progress).depth = none := by
      rw [← hdepth, refusal, hlimit]
      exact if_neg (by rw [hs.depth_eq]; omega)
    refine .advance hs.ahead.of_depth hs.text_eq rfl (account_of_opening ht hstep hadmitted)
      fun hs' => ?_
    refine (tells_proposition (hbody room rfl) hs').bind ?_
    rintro body r xs rest s' ⟨rfl, rfl⟩ hs'
    refine tells_closing hs' ⟨rfl, ?_⟩
    rw [ht]
    rfl

theorem tells_term {room depth : Nat} (hroom : room + depth = ceiling)
    (hbody : ∀ room', room = room' + 1 → TellsTerms limit text (depth + 1) (simple limit room')) :
    TellsTerms limit text depth (simple limit room) := by
  rintro q after ts f s rfl hafter hneg hs
  have hcurrent := hs.ahead.current_eq
  have hoperand : q.expected = .operand := by
    unfold Progress.expected
    rw [hafter]
    rfl
  rcases ts with _ | ⟨t, ts⟩
  · cases f with
    | some e => exact hs.ahead.elim
    | none =>
      unfold simple Operations.simple
      dsimp only [operations]
      rw [current_bind, hcurrent]
      refine .incomplete ?_ hoperand
      unfold Progress.accepts
      rw [hafter]
      rfl
  by_cases hopening : t.lexeme = .opening
  · exact tells_opening hroom hbody hafter hopening hs
  unfold simple Operations.simple
  dsimp only [operations, Makers.plain]
  rw [current_bind, hcurrent]
  dsimp only [List.head?_cons]
  cases ht : t.lexeme with
  | identifier n =>
    refine .advance_of_step hs (r := ⟨after, q.outer⟩) ?_ (by simp [ht]) (by simp [ht])
      fun hs' => ?_
    · rw [ht, Progress.step, hafter]
      rfl
    · exact .pure hs' ⟨rfl, congrArg (· :: []) ht⟩
  | negation =>
    refine .unexpected ?_ hoperand
    rw [ht, Progress.step, if_neg fun hfresh => hneg hfresh t rfl ht]
  | connective op =>
    refine .unexpected ?_ hoperand
    rw [ht, Progress.step, if_neg]
    intro hbare
    rw [hbare] at hafter
    cases hafter
  | opening => exact absurd ht hopening
  | closing =>
    refine .unexpected ?_ hoperand
    rw [ht, Progress.step, hafter]

theorem tells_simple (room : Nat) {depth : Nat} (hroom : room + depth = ceiling) :
    TellsTerms limit text depth (simple limit room) := by
  induction room generalizing depth with
  | zero =>
    refine tells_term hroom ?_
    rintro room' ⟨⟩
  | succ room ih =>
    refine tells_term hroom ?_
    rintro room' ⟨⟩
    exact ih (by omega)

end Tells

/-! ## The account of a whole text -/

theorem Progress.step_complete (x : Lexeme) : (⟨.complete, []⟩ : Progress).step x = none := by
  cases x <;> rfl

/-- A parse records what the account says, from the first pull on, and fails exactly if the account
does and in the same way. A formula that it delivers has the tokens of the text as its lexemes. -/
theorem parse_eq_account (limit : Option Int) {text : Text} {ts : List Token}
    {f : Option ForeignCharacter} (htokens : tokenize text 1 0 = ⟨ts, f⟩) :
    (∃ e, (account limit text .start ts f).failure = some e ∧
      parse limit text = ⟨pulls text ts f ++ (account limit text .start ts f).events, .error e⟩) ∨
    (∃ p : Formula, (account limit text .start ts f).failure = none ∧ f = none ∧
      ts.map Token.lexeme = p.lexemes ∧
      parse limit text = ⟨pulls text ts f ++ ((account limit text .start ts f).events ++
        [.parsed text p.size]), .ok p⟩) := by
  unfold parse
  rw [Parse.wholeText_eq]
  obtain ⟨e, rfl, rfl, hadvance⟩ | ⟨s, hadvance, hahead, htext, hdepth⟩ :=
    advance_cases (s := ⟨text, 0, none, 0⟩) (n := 0) rfl htokens
  · rw [Descent.bind_of_error hadvance]
    exact .inl ⟨_, rfl, rfl⟩
  rw [Descent.bind_of_ok hadvance]
  have hs : Standing text ⟨.fresh, []⟩ ts f s := ⟨htext, hdepth, hahead⟩
  have hterms : TellsTerms limit text 0 (Parse.simple limit Parse.ceiling) :=
    tells_simple Parse.ceiling rfl
  have h := tells_proposition hterms hs
  generalize hc : Parse.proposition limit (Parse.simple limit Parse.ceiling) s = c at h
  cases h with
  | failed h =>
    rw [Descent.bind_of_error hc]
    refine .inl ⟨_, congrArg Account.failure h, ?_⟩
    rw [Progress.start, h]
    rfl
  | @passed events p s' r read rest hts hgoal hs' h =>
    obtain ⟨rfl, hread⟩ := hgoal
    rw [Descent.bind_of_ok hc, Descent.current_bind, hs'.ahead.current_eq, Progress.start, h]
    rcases rest with _ | ⟨t, rest⟩
    · cases f with
      | some e => exact hs'.ahead.elim
      | none =>
        refine .inr ⟨p, rfl, rfl, ?_, ?_⟩
        · rw [hts, List.append_nil, hread]
        · simp only [Course.after, Account.after, account, List.append_nil]
          rfl
    · refine .inl ⟨.unexpected .finish t, ?_, ?_⟩
      · simp only [Account.after, account_of_step_eq_none (Progress.step_complete _)]
        rfl
      · simp only [Account.after, account_of_step_eq_none (Progress.step_complete _)]
        rfl

theorem parse_eq_error_iff {limit : Option Int} {text : Text} {ts : List Token}
    {f : Option ForeignCharacter} {e : ParseFailure} (htokens : tokenize text 1 0 = ⟨ts, f⟩) :
    (parse limit text).outcome = .error e ↔
      (account limit text .start ts f).failure = some e := by
  obtain ⟨e', he', hparse⟩ | ⟨p, hnone, -, -, hparse⟩ := parse_eq_account limit htokens
  · rw [hparse, he']
    constructor <;> rintro ⟨⟩ <;> rfl
  · rw [hparse, hnone]
    constructor <;> rintro ⟨⟩

end Propositional
