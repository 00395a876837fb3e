import Mathlib.Data.List.Infix
import Propositional.Proofs.EarliestFailure

/-!
# The trace of a parse

A log of the level of debugging keeps every event of a parse. `trace` says which events these are,
by the tokens that the parse has consumed alone: a pull to begin with; for each consumed token the
next pull, with the group that the token opens before it or the group that it closes behind it; and
an end by the outcome.

`log_debug_eq_trace`: the log is the lines of this trace, where the consumed tokens are as many as
may be read.

1. `account_of_step_eq_some`: a token that is taken in adds `consumption` to the account.
2. `account_of_run`: so a run adds that of its tokens, and `Halts.stopsBefore` gives the end.
3. From the trace it is seen that the pulls are the tokens of the text in their order
   (`filterMap_token?_trace`), that its end is pulled at most once (`filterMap_place?_trace`), and
   that groups are left in the reverse order in which they were entered (`exists_nest_trace`).
-/

namespace Propositional

/-! ## The trace -/

/-- The lines that a trace has for an event. -/
def Event.lines : Event → String
  | .pulled t => s!"[TOKEN] {t.kind.name} {String.ofList t.text.quoted} @{t.index}\n"
  | .finished index => s!"[TOKEN] <end> @{index}\n"
  | .entered depth index =>
    "[DEBUG] Entering group\n" ++ s!"  depth: {depth}\n" ++ s!"  index: {index}\n"
  | .left depth => "[DEBUG] Leaving group\n" ++ s!"  depth: {depth}\n"
  | .parsed text nodes => s!"PARSED: {String.ofList text.quoted} ({nodes} nodes)\n"

/-- The number of open groups behind a token, from that before it. -/
def Token.depthBehind (depth : Nat) (t : Token) : Nat :=
  match t.lexeme with
  | .opening => depth + 1
  | .closing => depth - 1
  | _ => depth

/-- The events of consuming a token that has `depth` groups open before it and the tokens `ts`
behind it, after which the stream breaks off at `f` or ends. -/
def consumption (text : Text) (depth : Nat) (t : Token) (ts : List Token)
    (f : Option ForeignCharacter) : List Event :=
  match t.lexeme with
  | .opening => .entered (depth + 1) t.index :: pulls text ts f
  | .closing => pulls text ts f ++ leaves depth ts f
  | _ => pulls text ts f

/-- The events of consuming the tokens `read` one after the other, where `rest` are those behind
them. -/
def consumptions (text : Text) (rest : List Token) (f : Option ForeignCharacter) :
    Nat → List Token → List Event
  | _, [] => []
  | depth, t :: read =>
    consumption text depth t (read ++ rest) f ++
      consumptions text rest f (t.depthBehind depth) read

/-- The events at the end of a parse with an outcome, where `depth` groups are open and the tokens
`rest` were not consumed. -/
def ending (text : Text) (depth : Nat) (rest : List Token) :
    Except ParseFailure Formula → List Event
  | .ok p => [.parsed text p.size]
  | .error (.limitExceeded _) | .error .limitUnwritable =>
    rest.head?.toList.map fun t => .entered (depth + 1) t.index
  | .error _ => []

/-- The events of a parse that consumes the tokens `read` of a text and comes to an outcome. -/
def trace (text : Text) (read rest : List Token) (f : Option ForeignCharacter)
    (outcome : Except ParseFailure Formula) : List Event :=
  pulls text (read ++ rest) f ++
    (consumptions text rest f 0 read ++ ending text (read.foldl Token.depthBehind 0) rest outcome)

/-- The tokens that are left when a parse comes to an outcome, after which the stream breaks off or
ends: none but where the outcome is for the first of them. -/
inductive StopsBefore : List Token → Option ForeignCharacter → Except ParseFailure Formula → Prop
  | formula (p : Formula) : StopsBefore [] none (.ok p)
  | incomplete (x : Expected) : StopsBefore [] none (.error (.incomplete x))
  | foreign (e : ForeignCharacter) : StopsBefore [] (some e) (.error (.foreign e))
  | unexpected (x : Expected) (t : Token) (ts : List Token) (f : Option ForeignCharacter) :
    StopsBefore (t :: ts) f (.error (.unexpected x t))
  | refused {t : Token} (ts : List Token) (f : Option ForeignCharacter) (m : Int) :
    t.lexeme = .opening → StopsBefore (t :: ts) f (.error (.limitExceeded m))
  | unwritable {t : Token} (ts : List Token) (f : Option ForeignCharacter) :
    t.lexeme = .opening → StopsBefore (t :: ts) f (.error .limitUnwritable)

/-! ## Accounts and traces -/

section Accounts

variable {limit : Option Int} {text : Text} {q r : Progress} {t : Token} {ts read rest : List Token}
  {f : Option ForeignCharacter}

theorem Progress.depth_eq_depthBehind (h : q.step t.lexeme = some r) :
    r.depth = t.depthBehind q.depth := by
  have hdepth := Progress.depth_of_step h
  unfold Token.depthBehind
  cases ht : t.lexeme with
  | opening =>
    rw [ht] at hdepth
    have hopen : openGroups [.opening] = 1 := rfl
    dsimp only
    omega
  | closing =>
    rw [ht] at hdepth
    have hclose : openGroups [.closing] = -1 := rfl
    dsimp only
    omega
  | _ =>
    rw [openGroups_symbol (by simp [ht]) (by simp [ht])] at hdepth
    dsimp only
    omega

theorem account_of_step_eq_some (h : q.step t.lexeme = some r)
    (hadmitted : t.lexeme = .opening → refusal limit r.depth = none) :
    account limit text q (t :: ts) f =
      (account limit text r ts f).after (consumption text q.depth t ts f) := by
  have hdepth := Progress.depth_eq_depthBehind h
  unfold Token.depthBehind at hdepth
  unfold consumption
  by_cases ho : t.lexeme = .opening
  · rw [account_of_opening ho (ho ▸ h) (hadmitted ho)]
    rw [ho] at hdepth ⊢
    rw [hdepth]
    rfl
  · by_cases hc : t.lexeme = .closing
    · rw [account_of_closing hc (hc ▸ h), hc]
    · rw [account_of_step h ho hc]
      cases ht : t.lexeme with
      | opening => exact absurd ht ho
      | closing => exact absurd ht hc
      | _ => rfl

theorem account_of_run (text : Text) (rest : List Token) (f : Option ForeignCharacter)
    (hrun : q.run (read.map Token.lexeme) = some r)
    (hadmits : Admits limit (q.depth + peak (read.map Token.lexeme))) :
    r.depth = read.foldl Token.depthBehind q.depth ∧
      account limit text q (read ++ rest) f =
        (account limit text r rest f).after (consumptions text rest f q.depth read) := by
  induction read generalizing q with
  | nil =>
    cases hrun
    exact ⟨rfl, rfl⟩
  | cons t read ih =>
    rw [List.map_cons, Progress.run_cons] at hrun
    obtain ⟨p, hstep, hrun⟩ := Option.bind_eq_some_iff.1 hrun
    have hdepth := Progress.depth_of_step hstep
    have hnonneg := peak_nonneg (read.map Token.lexeme)
    rw [List.map_cons, peak] at hadmits
    have hp : Admits limit (p.depth + peak (read.map Token.lexeme)) := hadmits.mono (by omega)
    have hadmitted : t.lexeme = .opening → refusal limit p.depth = none := by
      intro ho
      rw [ho] at hstep
      exact (refusal_eq_none_iff (Progress.depth_pos_of_step hstep)).2 (hp.mono (by omega))
    obtain ⟨hr, haccount⟩ := ih hrun hp
    rw [Progress.depth_eq_depthBehind hstep] at hr haccount
    refine ⟨hr, ?_⟩
    rw [List.cons_append, account_of_step_eq_some hstep hadmitted, haccount, Account.after_after]
    rfl

theorem Halts.eq_nil (h : Halts limit r rest f none) : rest = [] ∧ f = none ∧ r.depth = 0 := by
  cases h with
  | accepted hacc => exact ⟨rfl, rfl, congrArg List.length (Progress.accepts_iff.1 hacc).2⟩

/-- An account that halts for a failure has nothing left to record but that it enters a group that
the limit refuses. -/
theorem Halts.stopsBefore {failure : ParseFailure} (text : Text)
    (h : Halts limit r rest f (some failure)) (hceiling : failure ≠ .ceilingExceeded) :
    StopsBefore rest f (.error failure) ∧
      (account limit text r rest f).events = ending text r.depth rest (.error failure) := by
  cases h with
  | incomplete hacc => exact ⟨.incomplete _, rfl⟩
  | foreign e => exact ⟨.foreign e, rfl⟩
  | unexpected hstep =>
    rw [account_of_step_eq_none hstep]
    exact ⟨.unexpected _ _ _ _, rfl⟩
  | @refused t ts f r' e ho hstep hrefused =>
    obtain ⟨m, -, -, rfl⟩ := limit_of_refusal_of_ne hrefused hceiling
    have hdepth := Progress.depth_eq_depthBehind (t := t) (ho ▸ hstep)
    rw [Token.depthBehind, ho] at hdepth
    rw [account_of_refusal ho hstep hrefused, hdepth]
    obtain h | h := ParseFailure.ofLimit_cases m
    · rw [h]
      exact ⟨.refused _ _ _ ho, rfl⟩
    · rw [h]
      exact ⟨.unwritable _ _ ho, rfl⟩

end Accounts

theorem exists_halt_of_trace {limit : Option Int} {text : Text} {ts : List Token}
    {f : Option ForeignCharacter} (htokens : tokenize text 1 0 = ⟨ts, f⟩)
    (hceiling : (parse limit text).outcome ≠ .error .ceilingExceeded) :
    ∃ read rest r, ts = read ++ rest ∧
      Halts limit r rest f (account limit text .start ts f).failure ∧
      IsGreatest {k | Readable limit ts k} read.length ∧
      Progress.start.run (read.map Token.lexeme) = some r ∧
      StopsBefore rest f (parse limit text).outcome ∧
      (∀ p, (parse limit text).outcome = .ok p →
        ts.map Token.lexeme = p.lexemes ∧ r.depth = 0) ∧
      (parse limit text).events = trace text read rest f (parse limit text).outcome := by
  obtain ⟨read, rest, r, rfl, hrun, hpeak, -, hhalt⟩ := exists_halt_start limit text ts f
  have hne : (account limit text .start (read ++ rest) f).failure ≠ some .ceilingExceeded :=
    fun h => hceiling ((parse_eq_error_iff htokens).2 h)
  have hgreatest : IsGreatest {k | Readable limit (read ++ rest) k} read.length :=
    ⟨readable_of_run hrun hpeak, fun k hk => hk.le_of_halts_of_ne hrun hhalt hne⟩
  have hstart : ((Progress.start).depth : Int) = 0 := rfl
  obtain ⟨hdepth, haccount⟩ := account_of_run text rest f hrun
    (by rwa [hstart, Int.zero_add])
  refine ⟨read, rest, r, rfl, hhalt, hgreatest, hrun, ?_⟩
  unfold trace
  change r.depth = read.foldl Token.depthBehind 0 at hdepth
  rw [← hdepth]
  obtain ⟨e, hfailure, hparse⟩ | ⟨p, hfailure, -, hlexemes, hparse⟩ :=
    parse_eq_account limit htokens
  · rw [hfailure] at hhalt hne
    obtain ⟨hstops, hevents⟩ := hhalt.stopsBefore text fun h => hne (congrArg some h)
    rw [hparse]
    refine ⟨hstops, by rintro p ⟨⟩, ?_⟩
    rw [haccount, Account.after, hevents]
    rfl
  · rw [hfailure] at hhalt
    obtain ⟨rfl, rfl, hzero⟩ := hhalt.eq_nil
    rw [hparse]
    refine ⟨.formula p, ?_, ?_⟩
    · rintro p' ⟨⟩
      exact ⟨hlexemes, hzero⟩
    · have hnil : (account limit text r [] none).events = [] := rfl
      rw [List.append_nil] at haccount
      simp only [List.append_nil, haccount, Account.after, hnil]
      rfl

theorem events_eq_trace {limit : Option Int} {text : Text} {ts : List Token}
    {f : Option ForeignCharacter} (htokens : tokenize text 1 0 = ⟨ts, f⟩)
    (hceiling : (parse limit text).outcome ≠ .error .ceilingExceeded) :
    ∃ read rest r, ts = read ++ rest ∧ IsGreatest {k | Readable limit ts k} read.length ∧
      Progress.start.run (read.map Token.lexeme) = some r ∧
      StopsBefore rest f (parse limit text).outcome ∧
      (∀ p, (parse limit text).outcome = .ok p →
        ts.map Token.lexeme = p.lexemes ∧ r.depth = 0) ∧
      (parse limit text).events = trace text read rest f (parse limit text).outcome := by
  obtain ⟨read, rest, r, hts, -, htrace⟩ := exists_halt_of_trace htokens hceiling
  exact ⟨read, rest, r, hts, htrace⟩

/-! ## What a log writes -/

theorem Event.written_entry (e : Event) : e.entry.written = e.lines := by
  unfold entry Log.Entry.written Log.Entry.lines lines
  cases e with
  | pulled t => simp [String.append_assoc]
  | finished index => simp [String.append_assoc]
  | entered depth index => simp [Log.Entry.rowLine, String.append_assoc]
  | left depth => simp [Log.Entry.rowLine, String.append_assoc]
  | parsed text nodes =>
    have hnodes : (nodes : Int).repr = nodes.repr := rfl
    simp [hnodes, String.append_assoc]

theorem Parse.log_debug (p : Parse) : p.log .debug = String.join (p.events.map Event.lines) := by
  have hwrite : ∀ e : Event, Log.write .debug e.entry = e.lines := by
    intro e
    rw [← e.written_entry]
    cases e <;> rfl
  unfold Parse.log Log.writeAll
  rw [List.map_map]
  exact congrArg String.join (List.map_congr_left fun e _ => hwrite e)

/-! ## Pulls -/

section Pulls

variable {text : Text} {read rest : List Token} {f : Option ForeignCharacter} {depth : Nat}

/-- The token that is pulled in an event. -/
def Event.token? : Event → Option Token
  | .pulled t => some t
  | _ => none

/-- The place at which the end of a text is pulled in an event. -/
def Event.place? : Event → Option Int
  | .finished index => some index
  | _ => none

section Kept

variable {α : Type} {g : Event → Option α}

theorem filterMap_consumption (hentered : ∀ depth index, g (.entered depth index) = none)
    (hleft : ∀ depth, g (.left depth) = none) (t : Token) (ts : List Token) :
    (consumption text depth t ts f).filterMap g = (pulls text ts f).filterMap g := by
  have hleaves : (leaves depth ts f).filterMap g = [] := by
    unfold leaves
    split
    · rfl
    · simp [hleft]
  unfold consumption
  split
  · rw [List.filterMap_cons_none (hentered _ _)]
  · rw [List.filterMap_append, hleaves, List.append_nil]
  · rfl

theorem filterMap_ending (hentered : ∀ depth index, g (.entered depth index) = none)
    (hparsed : ∀ nodes, g (.parsed text nodes) = none)
    (outcome : Except ParseFailure Formula) :
    (ending text depth rest outcome).filterMap g = [] := by
  unfold ending
  split
  · simp [hparsed]
  · cases rest <;> simp [hentered]
  · cases rest <;> simp [hentered]
  · rfl

/-- What is kept of a trace is what is kept of its pulls, unless it is of groups or of the formula.
The pulls are one in front of each token that is consumed and one behind the last. -/
theorem filterMap_trace (hentered : ∀ depth index, g (.entered depth index) = none)
    (hleft : ∀ depth, g (.left depth) = none) (hparsed : ∀ nodes, g (.parsed text nodes) = none)
    (outcome : Except ParseFailure Formula) :
    (trace text read rest f outcome).filterMap g =
      read.tails.flatMap fun ts => (pulls text (ts ++ rest) f).filterMap g := by
  have hconsumptions : ∀ depth, (pulls text (read ++ rest) f ++
      consumptions text rest f depth read).filterMap g =
        read.tails.flatMap fun ts => (pulls text (ts ++ rest) f).filterMap g := by
    induction read with
    | nil =>
      intro depth
      rw [List.filterMap_append]
      rfl
    | cons t read ih =>
      intro depth
      have hrest := ih (t.depthBehind depth)
      rw [List.filterMap_append] at hrest ⊢
      rw [consumptions, List.filterMap_append, filterMap_consumption hentered hleft, hrest]
      rfl
  rw [trace, ← List.append_assoc, List.filterMap_append, hconsumptions,
    filterMap_ending hentered hparsed, List.append_nil]

end Kept

/-- The tokens pulled in a trace are the consumed ones and the next one, in their order. -/
theorem filterMap_token?_trace (outcome : Except ParseFailure Formula) :
    (trace text read rest f outcome).filterMap Event.token? =
      (read ++ rest).take (read.length + 1) := by
  have hpulls : ∀ ts, (pulls text ts f).filterMap Event.token? = ts.take 1 := by
    intro ts
    rcases ts with _ | ⟨t, ts⟩
    · cases f <;> rfl
    · rfl
  rw [filterMap_trace (fun _ _ => rfl) (fun _ => rfl) fun _ => rfl]
  induction read with
  | nil => exact (List.append_nil _).trans (hpulls rest)
  | cons t read ih => exact congrArg (List.cons t) ih

/-- The end of the text is pulled at most once in a trace, and at the end. -/
theorem filterMap_place?_trace (outcome : Except ParseFailure Formula) :
    ((trace text read rest f outcome).filterMap Event.place?).Sublist [(text.length : Int)] := by
  rw [filterMap_trace (fun _ _ => rfl) (fun _ => rfl) fun _ => rfl]
  induction read with
  | nil =>
    rw [List.tails, List.flatMap_singleton, List.nil_append]
    rcases rest with _ | ⟨t, ts⟩
    · cases f with
      | none => exact List.Sublist.refl _
      | some e => exact List.nil_sublist _
    · exact List.nil_sublist _
  | cons t read ih => exact ih

end Pulls

/-! ## Groups -/

/-- The depths of the groups that have been entered but not left, the innermost first, after an
event; none if a group is left that is not the innermost one. -/
def Event.nest (entered : List Nat) : Event → Option (List Nat)
  | .entered depth _ => some (depth :: entered)
  | .left depth =>
    match entered with
    | innermost :: outer => if depth = innermost then some outer else none
    | [] => none
  | _ => some entered

def Event.enters : Event → Bool
  | .entered _ _ => true
  | _ => false

def Node.groups : {c : Category} → Node Empty c → Nat
  | _, .identifier _ => 0
  | _, .group body => body.groups + 1
  | _, .bare term => term.groups
  | _, .negation operand => operand.groups
  | _, .compound _ left right => left.groups + right.groups

/-- The depths of open groups, the innermost first. -/
def depths : Nat → List Nat
  | 0 => []
  | depth + 1 => (depth + 1) :: depths depth

section Groups

variable {text : Text} {q r : Progress} {t : Token} {ts read rest : List Token}
  {f : Option ForeignCharacter}

theorem nest_pulls (entered : List Nat) :
    (pulls text ts f).foldlM Event.nest entered = some entered := by
  unfold pulls
  split <;> rfl

theorem nest_ending (entered : List Nat) (text : Text) (depth : Nat) (rest : List Token)
    (outcome : Except ParseFailure Formula) :
    ∃ entered', (ending text depth rest outcome).foldlM Event.nest entered = some entered' := by
  unfold ending
  split
  · exact ⟨_, rfl⟩
  · cases rest <;> exact ⟨_, rfl⟩
  · cases rest <;> exact ⟨_, rfl⟩
  · exact ⟨_, rfl⟩

/-- A consumption keeps the groups in order. Behind it those are open that are open behind the
token, unless the next pull fails. -/
theorem nest_consumption (text : Text) (ts : List Token) (f : Option ForeignCharacter)
    (h : q.step t.lexeme = some r) :
    ∃ entered, (consumption text q.depth t ts f).foldlM Event.nest (depths q.depth) =
      some entered ∧ ((ts = [] → f = none) → entered = depths r.depth) := by
  have hdepth := Progress.depth_eq_depthBehind h
  unfold Token.depthBehind at hdepth
  unfold consumption
  cases ht : t.lexeme with
  | opening =>
    rw [ht] at hdepth
    exact ⟨_, nest_pulls _, fun _ => by rw [hdepth]; rfl⟩
  | closing =>
    rw [ht] at hdepth h
    obtain ⟨depth, hq⟩ : ∃ depth, q.depth = depth + 1 := by
      have := Progress.depth_of_step h
      have hclose : openGroups [.closing] = -1 := rfl
      exact ⟨q.depth - 1, by omega⟩
    dsimp only at hdepth ⊢
    rw [List.foldlM_append, nest_pulls, Option.bind_eq_bind, Option.bind_some, hdepth, hq]
    unfold leaves
    split
    · exact ⟨_, rfl, fun hbreak => nomatch hbreak rfl⟩
    · exact ⟨depths depth, by simp [depths, Event.nest], fun _ => rfl⟩
  | _ =>
    rw [ht] at hdepth
    exact ⟨_, nest_pulls _, fun _ => by rw [hdepth]⟩

theorem nest_consumptions (text : Text) (rest : List Token) (f : Option ForeignCharacter)
    (hrun : q.run (read.map Token.lexeme) = some r) :
    ∃ entered, (consumptions text rest f q.depth read).foldlM Event.nest (depths q.depth) =
      some entered ∧ ((rest = [] → f = none) → entered = depths r.depth) := by
  induction read generalizing q with
  | nil =>
    cases hrun
    exact ⟨_, rfl, fun _ => rfl⟩
  | cons t read ih =>
    rw [List.map_cons, Progress.run_cons] at hrun
    obtain ⟨p, hstep, hrun⟩ := Option.bind_eq_some_iff.1 hrun
    obtain ⟨entered, hnest, hentered⟩ := nest_consumption text (read ++ rest) f hstep
    obtain ⟨entered', hnest', hentered'⟩ := ih hrun
    rw [consumptions, ← Progress.depth_eq_depthBehind hstep, List.foldlM_append, hnest]
    by_cases hgoes : read ++ rest = [] → f = none
    · rw [hentered hgoes]
      exact ⟨entered', hnest', hentered'⟩
    · -- the stream breaks off right behind the token, so nothing follows its consumption
      obtain ⟨hnil, hf⟩ := Classical.not_imp.1 hgoes
      obtain ⟨rfl, rfl⟩ := List.append_eq_nil_iff.1 hnil
      exact ⟨entered, rfl, fun h => absurd (h rfl) hf⟩

/-- In a trace, groups are left in the reverse order in which they were entered, and all of them are
left if the tokens are consumed up to the end with no group open. -/
theorem exists_nest_trace (text : Text) (rest : List Token) (f : Option ForeignCharacter)
    (hrun : Progress.start.run (read.map Token.lexeme) = some r)
    (outcome : Except ParseFailure Formula) :
    ∃ entered, (trace text read rest f outcome).foldlM Event.nest [] = some entered ∧
      (rest = [] → f = none → r.depth = 0 → (∃ p, outcome = .ok p) → entered = []) := by
  obtain ⟨entered, hnest, hentered⟩ := nest_consumptions text rest f hrun
  change (consumptions text rest f 0 read).foldlM Event.nest [] = some entered at hnest
  obtain ⟨entered', hending⟩ :=
    nest_ending entered text (read.foldl Token.depthBehind 0) rest outcome
  refine ⟨entered', ?_, ?_⟩
  · rw [trace, List.foldlM_append, nest_pulls, Option.bind_eq_bind, Option.bind_some,
      List.foldlM_append, hnest]
    exact hending
  · rintro - rfl hzero ⟨p, rfl⟩
    cases hending
    rw [hentered fun _ => rfl, hzero]
    rfl

theorem countP_enters_pulls : (pulls text ts f).countP Event.enters = 0 := by
  unfold pulls
  split <;> rfl

theorem countP_enters_consumption (depth : Nat) :
    (consumption text depth t ts f).countP Event.enters = [t.lexeme].count .opening := by
  have hleaves : (leaves depth ts f).countP Event.enters = 0 := by
    unfold leaves
    split <;> rfl
  unfold consumption
  cases t.lexeme with
  | opening =>
    rw [List.countP_cons_of_pos rfl, countP_enters_pulls]
    rfl
  | closing =>
    rw [List.countP_append, countP_enters_pulls, hleaves]
    rfl
  | _ =>
    rw [countP_enters_pulls]
    rfl

theorem countP_enters_consumptions (depth : Nat) :
    (consumptions text rest f depth read).countP Event.enters =
      (read.map Token.lexeme).count .opening := by
  induction read generalizing depth with
  | nil => rfl
  | cons t read ih =>
    rw [consumptions, List.countP_append, countP_enters_consumption, ih, List.map_cons,
      ← List.count_append]
    rfl

theorem countP_enters_trace (p : Formula) :
    (trace text read rest f (.ok p)).countP Event.enters =
      (read.map Token.lexeme).count .opening := by
  rw [trace, List.countP_append, countP_enters_pulls, List.countP_append,
    countP_enters_consumptions, Nat.zero_add]
  rfl

theorem Node.count_opening : {c : Category} → (t : Node Empty c) →
    t.lexemes.count .opening = t.groups
  | _, .identifier n => List.count_eq_zero.2 (by simp [Node.lexemes])
  | _, .group body => by
    rw [Node.lexemes, List.cons_append, List.count_cons_self, List.count_append, body.count_opening]
    rfl
  | _, .bare term => term.count_opening
  | _, .negation operand => by
    rw [Node.lexemes, List.count_cons_of_ne (by simp), operand.count_opening]
    rfl
  | _, .compound op left right => by
    rw [Node.lexemes, List.count_append, List.count_cons_of_ne (by simp), left.count_opening,
      right.count_opening]
    rfl

end Groups

/-! ## The log of debugging -/

/-- What a trace of a parse of a text with the tokens `ts` keeps to. -/
structure Orderly (text : Text) (ts : List Token) (p : Parse) : Prop where
  /-- The tokens are pulled one after the other from the first one on. -/
  pulled : p.events.filterMap Event.token? <+: ts
  /-- Each of them stands behind the one before it. -/
  increasing : (p.events.filterMap Event.token?).Pairwise fun t u => t.index < u.index
  /-- The end is pulled at most once, at the length of the text. -/
  finished : (p.events.filterMap Event.place?).Sublist [(text.length : Int)]
  /-- A group that is left is the innermost of those that were entered and not left. -/
  nested : ∃ entered, p.events.foldlM Event.nest [] = some entered
  /-- If a formula is delivered, all groups have been left, and they are as many as the groups of
  the formula and as the opening parentheses of the text. -/
  balanced : ∀ formula, p.outcome = .ok formula → p.events.foldlM Event.nest [] = some [] ∧
    p.events.countP Event.enters = formula.groups ∧
    p.events.countP Event.enters = (ts.map Token.lexeme).count .opening

/-- The log of debugging is the trace of the tokens that a parse consumes, which are as many as may
be read, unless the ceiling is reached. The tokens are pulled in order, the end at most once, and
groups are left in the reverse order in which they were entered. -/
theorem log_debug_eq_trace {limit : Option Int} {text : Text} {ts : List Token}
    {f : Option ForeignCharacter} (htokens : tokenize text 1 0 = ⟨ts, f⟩)
    (hceiling : (parse limit text).outcome ≠ .error .ceilingExceeded) :
    ∃ read rest, ts = read ++ rest ∧ IsGreatest {k | Readable limit ts k} read.length ∧
      StopsBefore rest f (parse limit text).outcome ∧
      (parse limit text).log .debug = String.join
        ((trace text read rest f (parse limit text).outcome).map Event.lines) ∧
      (parse limit text).events = trace text read rest f (parse limit text).outcome ∧
      Orderly text ts (parse limit text) := by
  obtain ⟨read, rest, r, rfl, hgreatest, hrun, hstops, hformula, hevents⟩ :=
    events_eq_trace htokens hceiling
  have hprefix : (parse limit text).events.filterMap Event.token? <+: read ++ rest := by
    rw [hevents, filterMap_token?_trace]
    exact List.take_prefix _ _
  have hincreasing : (read ++ rest).Pairwise fun t u => t.index < u.index :=
    (tokenize_zero_eq_iff.1 htokens).pairwise_index
  obtain ⟨entered, hnest, hentered⟩ :=
    exists_nest_trace text rest f hrun (parse limit text).outcome
  refine ⟨read, rest, rfl, hgreatest, hstops, ?_, hevents, hprefix,
    hincreasing.sublist hprefix.sublist, ?_, ⟨entered, hevents ▸ hnest⟩, fun formula hok => ?_⟩
  · rw [Parse.log_debug, hevents]
  · rw [hevents]
    exact filterMap_place?_trace _
  · obtain ⟨hlexemes, hzero⟩ := hformula formula hok
    obtain ⟨rfl, rfl⟩ : rest = [] ∧ f = none := by
      rw [hok] at hstops
      cases hstops
      exact ⟨rfl, rfl⟩
    have hcount : (parse limit text).events.countP Event.enters =
        ((read ++ []).map Token.lexeme).count Lexeme.opening := by
      rw [hevents, hok, countP_enters_trace, List.append_nil]
    refine ⟨?_, ?_, hcount⟩
    · rw [hevents, hnest, hentered rfl rfl hzero ⟨formula, hok⟩]
    · rw [hcount, hlexemes, Node.count_opening]

/-- A group is not left in the log if the pull behind its closing parenthesis fails. -/
theorem log_debug_of_failing_pull :
    (parse (some 3) "((a)?".toList).outcome = .error (.foreign ⟨'?', 4⟩) ∧
      (parse (some 3) "((a)?".toList).log .debug =
        "[TOKEN] LPAREN '(' @0\n[DEBUG] Entering group\n  depth: 1\n  index: 0\n" ++
        "[TOKEN] LPAREN '(' @1\n[DEBUG] Entering group\n  depth: 2\n  index: 1\n" ++
        "[TOKEN] ID 'a' @2\n[TOKEN] RPAREN ')' @3\n" := by
  have htokens : tokenize "((a)?".toList 1 0 =
      ⟨[⟨.opening, 1, 0, 1⟩, ⟨.opening, 1, 1, 2⟩, ⟨.identifier Progress.someName, 1, 2, 3⟩,
        ⟨.closing, 1, 3, 4⟩], some ⟨'?', 4⟩⟩ := by decide +kernel
  have houtcome : (parse (some 3) "((a)?".toList).outcome = .error (.foreign ⟨'?', 4⟩) :=
    (parse_eq_error_iff htokens).2 rfl
  have hceiling : (parse (some 3) "((a)?".toList).outcome ≠ .error .ceilingExceeded :=
    BelowCeiling.outcome_ne_ceilingExceeded (.inl ⟨3, rfl, by decide⟩)
  obtain ⟨read, rest, hread, -, hstops, hlog, -⟩ := log_debug_eq_trace htokens hceiling
  rw [houtcome] at hstops hlog
  cases hstops
  rw [List.append_nil] at hread
  subst hread
  refine ⟨houtcome, hlog.trans ?_⟩
  decide +kernel

end Propositional
