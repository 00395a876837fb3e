import Propositional.Proofs.Account
import Propositional.Proofs.Numerals

/-!
# Where an account halts

An account takes in tokens as long as the formula can go on with them and no group is refused, and
halts before the first token that is an obstacle or at the end of the tokens (`exists_halt_start`).

A group is refused for the limit or for the ceiling. `BelowCeiling` says that the ceiling plays no
part, because the limit is small or because no text has that many parentheses open; then only the
limit can refuse a group (`BelowCeiling.limit_of_refusal`).
-/

namespace Propositional

/-! ## Bounds on open groups -/

/-- A limit allows a number of open groups. A negative limit allows none. -/
def Allows (limit : Option Int) (n : Int) : Prop := ∀ m ∈ limit, n ≤ max m 0

/-- A parse admits a number of open groups: the limit allows it and the ceiling does. -/
def Admits (limit : Option Int) (n : Int) : Prop := n ≤ Parse.ceiling ∧ Allows limit n

/-- A number of groups that may surely be open at once in any parse. -/
def Parse.assured : Nat := 400

/-- The ceiling on open groups plays no part in a parse: the limit is below what is assured, or the
text never has more parentheses open than that. -/
def BelowCeiling (limit : Option Int) (text : Text) : Prop :=
  (∃ m, limit = some m ∧ m < Parse.assured) ∨
    ∀ front, front <+: text → front.count '(' ≤ front.count ')' + Parse.assured

section Bounds

variable {limit : Option Int} {n k : Int} {depth : Nat}

theorem Parse.assured_le_ceiling : Parse.assured ≤ Parse.ceiling := by decide

theorem Allows.mono (h : Allows limit n) (hk : k ≤ n) : Allows limit k :=
  fun m hm => Int.le_trans hk (h m hm)

theorem Admits.mono (h : Admits limit n) (hk : k ≤ n) : Admits limit k :=
  ⟨Int.le_trans hk h.1, h.2.mono hk⟩

theorem admits_zero : Admits limit 0 := ⟨by decide, fun _ _ => Int.le_max_right _ _⟩

theorem refusal_eq_none_iff (hdepth : 0 < depth) :
    refusal limit depth = none ↔ Admits limit depth := by
  have hceiling : (if Parse.ceiling < depth then some ParseFailure.ceilingExceeded else none) =
      none ↔ (depth : Int) ≤ Parse.ceiling := by
    rw [Int.ofNat_le, ← Nat.not_lt]
    split
    · rename_i h
      exact ⟨(by rintro ⟨⟩), absurd h⟩
    · rename_i h
      exact ⟨fun _ => h, fun _ => rfl⟩
  unfold refusal Admits Allows
  cases limit with
  | none => rw [Option.filter_none, hceiling, and_iff_left (by rintro m ⟨⟩)]
  | some m =>
    by_cases hm : m < (depth : Int)
    · rw [Option.filter_some_pos (by simpa using hm)]
      refine ⟨(by rintro ⟨⟩), fun h => ?_⟩
      have := h.2 m rfl
      omega
    · rw [Option.filter_some_neg (by simpa using hm), hceiling, and_iff_left]
      rintro _ ⟨⟩
      omega

theorem limit_of_refusal_of_ne {e : ParseFailure} (he : refusal limit depth = some e)
    (hne : e ≠ .ceilingExceeded) :
    ∃ m, limit = some m ∧ m < (depth : Int) ∧ e = .ofLimit m := by
  unfold refusal at he
  cases hfilter : limit.filter fun m => m < (depth : Int) with
  | some m =>
    rw [hfilter] at he
    cases he
    obtain ⟨hm, hlt⟩ := Option.filter_eq_some_iff.1 hfilter
    exact ⟨m, hm, by simpa using hlt, rfl⟩
  | none =>
    rw [hfilter] at he
    obtain ⟨-, he⟩ := Option.ite_none_right_eq_some.1 he
    exact absurd (Option.some.inj he).symm hne

end Bounds

/-! ## Halting -/

section Halting

variable {limit : Option Int} {text : Text} {q r : Progress} {t : Token} {ts : List Token}
  {f : Option ForeignCharacter}

/-- How an account ends at a progress with tokens left: at the end of the tokens, or at a token that
is an obstacle. -/
inductive Halts (limit : Option Int) (q : Progress) :
    List Token → Option ForeignCharacter → Option ParseFailure → Prop
  | accepted : q.accepts = true → Halts limit q [] none none
  | incomplete : q.accepts = false → Halts limit q [] none (some (.incomplete q.expected))
  | foreign (e : ForeignCharacter) : Halts limit q [] (some e) (some (.foreign e))
  | unexpected {t : Token} {ts : List Token} {f : Option ForeignCharacter} :
    q.step t.lexeme = none → Halts limit q (t :: ts) f (some (.unexpected q.expected t))
  | refused {t : Token} {ts : List Token} {f : Option ForeignCharacter} {r : Progress}
      {e : ParseFailure} :
    t.lexeme = .opening → q.step .opening = some r → refusal limit r.depth = some e →
      Halts limit q (t :: ts) f (some e)

theorem failure_of_step (h : q.step t.lexeme = some r)
    (hadmitted : t.lexeme = .opening → refusal limit r.depth = none) :
    (account limit text q (t :: ts) f).failure = (account limit text r ts f).failure := by
  by_cases ho : t.lexeme = .opening
  · rw [account_of_opening ho (ho ▸ h) (hadmitted ho)]
    rfl
  · by_cases hc : t.lexeme = .closing
    · rw [account_of_closing hc (hc ▸ h)]
      rfl
    · rw [account_of_step h ho hc]
      rfl

theorem halts_or_step (hq : Admits limit q.depth) (t : Token) :
    (∀ text ts f, Halts limit q (t :: ts) f (account limit text q (t :: ts) f).failure) ∨
      ∃ r, q.step t.lexeme = some r ∧ (t.lexeme = .opening → refusal limit r.depth = none) ∧
        Admits limit r.depth := by
  obtain hstep | ⟨r, e, ho, hstep, he⟩ | ⟨r, hstep, hadmitted⟩ := step_cases limit q t
  · refine .inl fun text ts f => ?_
    rw [account_of_step_eq_none hstep]
    exact .unexpected hstep
  · refine .inl fun text ts f => ?_
    rw [account_of_refusal ho hstep he]
    exact .refused ho hstep he
  · refine .inr ⟨r, hstep, hadmitted, ?_⟩
    by_cases ho : t.lexeme = .opening
    · have hpos := Progress.depth_pos_of_step (ho ▸ hstep)
      exact (refusal_eq_none_iff hpos).1 (hadmitted ho)
    · -- only an opening parenthesis makes for more open groups
      have hdepth := Progress.depth_of_step hstep
      have hle : openGroups [t.lexeme] ≤ 0 := by simp [openGroups, ho]
      exact hq.mono (by omega)

/-- Tokens that are taken in one after the other leave the failure to whatever follows them. -/
def Passes (limit : Option Int) (q : Progress) (read : List Token) (r : Progress) : Prop :=
  ∀ text ts f, (account limit text q (read ++ ts) f).failure = (account limit text r ts f).failure

/-- An account takes in tokens until it halts, and all that it takes in is admitted. -/
theorem exists_halt (text : Text) (ts : List Token) (f : Option ForeignCharacter)
    (hq : Admits limit q.depth) :
    ∃ read rest r, ts = read ++ rest ∧ q.run (read.map Token.lexeme) = some r ∧
      Admits limit (q.depth + peak (read.map Token.lexeme)) ∧ Passes limit q read r ∧
      Halts limit r rest f (account limit text q ts f).failure := by
  induction ts generalizing q with
  | nil =>
    refine ⟨[], [], q, rfl, rfl, by simpa [peak] using hq, fun _ _ _ => rfl, ?_⟩
    cases f with
    | some e => exact .foreign e
    | none =>
      unfold account
      cases hacc : q.accepts with
      | true => exact .accepted hacc
      | false => exact .incomplete hacc
  | cons t ts ih =>
    obtain hhalt | ⟨r, hstep, hadmitted, hr⟩ := halts_or_step hq t
    · exact ⟨[], t :: ts, q, rfl, rfl, by simpa [peak] using hq, fun _ _ _ => rfl, hhalt text ts f⟩
    · obtain ⟨read, rest, p, rfl, hrun, hpeak, hpasses, hhalt⟩ := ih hr
      refine ⟨t :: read, rest, p, rfl, ?_, ?_, fun text us g => ?_, ?_⟩
      · rw [List.map_cons, Progress.run_cons, hstep]
        exact hrun
      · have hdepth := Progress.depth_of_step hstep
        rw [List.map_cons, peak]
        rcases Int.le_total (openGroups [t.lexeme] + peak (read.map Token.lexeme)) 0
          with hle | hle
        · exact hq.mono (by omega)
        · exact hpeak.mono (by omega)
      · rw [List.cons_append, failure_of_step hstep hadmitted]
        exact hpasses text us g
      · rwa [failure_of_step hstep hadmitted]

theorem exists_halt_start (limit : Option Int) (text : Text) (ts : List Token)
    (f : Option ForeignCharacter) :
    ∃ read rest r, ts = read ++ rest ∧ Progress.start.run (read.map Token.lexeme) = some r ∧
      Admits limit (peak (read.map Token.lexeme)) ∧ Passes limit .start read r ∧
      Halts limit r rest f (account limit text .start ts f).failure := by
  have hstart : ((Progress.start).depth : Int) = 0 := rfl
  have h := exists_halt text ts f (show Admits limit Progress.start.depth from admits_zero)
  simpa only [hstart, Int.zero_add] using h

end Halting

/-! ## Parentheses of a text -/

theorem Lexeme.count_text (x : Lexeme) :
    x.text.count '(' = [x].count .opening ∧ x.text.count ')' = [x].count .closing := by
  cases x with
  | identifier n =>
    have hn : ∀ c : Char, c.isAlphanum = false → n.text.count c = 0 := by
      intro c hc
      refine List.count_eq_zero.2 fun hmem => ?_
      rw [List.all_eq_true.1 n.alphanumeric c hmem] at hc
      cases hc
    exact ⟨hn '(' (by decide), hn ')' (by decide)⟩
  | connective op => cases op <;> exact ⟨rfl, rfl⟩
  | negation => exact ⟨rfl, rfl⟩
  | opening => exact ⟨rfl, rfl⟩
  | closing => exact ⟨rfl, rfl⟩

theorem Lexes.openGroups_eq {line : Int} {start : Nat} {text : Text} {ts : List Token}
    (h : Lexes line start text ⟨ts, none⟩) :
    openGroups (ts.map Token.lexeme) = (text.count '(' : Int) - text.count ')' := by
  have hopen : text.count '(' = text.withoutBlanks.count '(' :=
    (List.count_filter (by decide)).symm
  have hclose : text.count ')' = text.withoutBlanks.count ')' :=
    (List.count_filter (by decide)).symm
  rw [hopen, hclose, h.withoutBlanks_eq rfl]
  clear h hopen hclose
  induction ts with
  | nil => rfl
  | cons t ts ih =>
    obtain ⟨ho, hc⟩ := t.lexeme.count_text
    rw [List.map_cons, openGroups_cons, ih]
    simp only [List.map_cons, List.flatten_cons, List.count_append, Token.text, ho, hc, openGroups]
    omega

variable {limit : Option Int} {text : Text} {read rest : List Token} {f : Option ForeignCharacter}

/-- Of a text that stays below the ceiling, the tokens read up to any place have at most what is
assured open, or the limit is below that. -/
theorem BelowCeiling.openGroups_le (h : BelowCeiling limit text)
    (htokens : tokenize text 1 0 = ⟨read ++ rest, f⟩) :
    (∃ m, limit = some m ∧ m < Parse.assured) ∨
      openGroups (read.map Token.lexeme) ≤ Parse.assured := by
  refine h.imp_right fun htext => ?_
  have hlexes : Lexes 1 0 text ⟨read ++ rest, f⟩ := tokenize_zero_eq_iff.1 htokens
  obtain ⟨front, back, hfront, -, hread, -⟩ := hlexes.split rfl
  have := htext front ⟨back, hfront.symm⟩
  rw [hread.openGroups_eq]
  omega

theorem BelowCeiling.admits_of_allows {ts : List Token} (h : BelowCeiling limit text)
    (htokens : tokenize text 1 0 = ⟨ts, f⟩) (hallows : Allows limit (peak (ts.map Token.lexeme))) :
    Admits limit (peak (ts.map Token.lexeme)) := by
  have hassured := Parse.assured_le_ceiling
  refine ⟨?_, hallows⟩
  by_cases hlimit : ∃ m, limit = some m ∧ m < Parse.assured
  · obtain ⟨m, rfl, hm⟩ := hlimit
    have := hallows m rfl
    omega
  · have hpeak : peak (ts.map Token.lexeme) ≤ Parse.assured := by
      refine peak_le_iff.2 fun zs hzs => ?_
      rw [List.prefix_iff_eq_take.1 hzs, ← List.map_take]
      rw [← List.take_append_drop zs.length ts] at htokens
      exact (h.openGroups_le htokens).resolve_left hlimit
    omega

theorem depth_of_run_of_step {t : Token} {q r : Progress}
    (hrun : Progress.start.run (read.map Token.lexeme) = some q)
    (hstep : q.step t.lexeme = some r) :
    (r.depth : Int) = openGroups ((read ++ [t]).map Token.lexeme) := by
  have hstart : ((Progress.start).depth : Int) = 0 := rfl
  rw [Progress.depth_of_step hstep, Progress.depth_of_run hrun, hstart, Int.zero_add,
    List.map_append, openGroups_append, List.map_singleton]

theorem BelowCeiling.refusal_ne {t : Token} {depth : Nat}
    (h : BelowCeiling limit text) (htokens : tokenize text 1 0 = ⟨read ++ t :: rest, f⟩)
    (hdepth : (depth : Int) = openGroups ((read ++ [t]).map Token.lexeme)) :
    refusal limit depth ≠ some .ceilingExceeded := by
  intro he
  have hassured := Parse.assured_le_ceiling
  rw [List.append_cons] at htokens
  have hopen := h.openGroups_le htokens
  unfold refusal at he
  cases hfilter : limit.filter fun m => m < (depth : Int) with
  | some m =>
    rw [hfilter] at he
    obtain h | h := ParseFailure.ofLimit_cases m <;> cases h.symm.trans (Option.some.inj he)
  | none =>
    rw [hfilter] at he
    obtain ⟨hceiling, -⟩ := Option.ite_none_right_eq_some.1 he
    obtain ⟨m, rfl, hm⟩ | hle := hopen
    · have hnot : ¬ m < (depth : Int) := by simpa [Option.filter] using hfilter
      omega
    · omega

theorem BelowCeiling.limit_of_refusal {t : Token} {depth : Nat} {e : ParseFailure}
    (h : BelowCeiling limit text) (htokens : tokenize text 1 0 = ⟨read ++ t :: rest, f⟩)
    (hdepth : (depth : Int) = openGroups ((read ++ [t]).map Token.lexeme))
    (he : refusal limit depth = some e) :
    ∃ m, limit = some m ∧ m < (depth : Int) ∧ e = .ofLimit m := by
  refine limit_of_refusal_of_ne he fun hne => h.refusal_ne htokens hdepth ?_
  rw [he, hne]

theorem BelowCeiling.ne_ceilingExceeded {r : Progress} {failure? : Option ParseFailure}
    (h : BelowCeiling limit text) (htokens : tokenize text 1 0 = ⟨read ++ rest, f⟩)
    (hrun : Progress.start.run (read.map Token.lexeme) = some r)
    (hhalt : Halts limit r rest f failure?) : failure? ≠ some .ceilingExceeded := by
  rintro rfl
  cases hhalt with
  | refused ho hstep he =>
    exact h.refusal_ne htokens (depth_of_run_of_step hrun (ho.symm ▸ hstep)) he

theorem BelowCeiling.outcome_ne_ceilingExceeded (h : BelowCeiling limit text) :
    (parse limit text).outcome ≠ .error .ceilingExceeded := by
  obtain ⟨⟨ts, f⟩, htokens⟩ : ∃ d, tokenize text 1 0 = d := ⟨_, rfl⟩
  obtain ⟨read, rest, r, rfl, hrun, -, -, hhalt⟩ := exists_halt_start limit text ts f
  intro hfails
  exact h.ne_ceilingExceeded htokens hrun hhalt ((parse_eq_error_iff htokens).1 hfails)

/-! ## A limit that cannot be written -/

theorem unwritableLimit_lt_assured : unwritableLimit < Parse.assured :=
  Int.lt_trans unwritableLimit_neg (by decide)

end Propositional
