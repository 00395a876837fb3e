import Propositional.Parse.Parser
import Propositional.Proofs.Account
import Propositional.Proofs.Measures
import Propositional.Proofs.Simulation

/-!
# Parses with a parser

A parse with a parser comes to the same as one that records its events, and the parser is left as it
was but for the mark of its lexer and for what the log admits of those events (`Parser.parse_eq`).
The mark that a parser has when it starts to parse is of no matter.

`Working.playing` relates a step with a parser at hand to one that records events. The operations of
the two are related one by one (`Working.agree`), and the steps of the grammar by
`Operations.Agree.wholeText`.
-/

namespace Propositional

/-! ## Parsers after some events -/

namespace Parser

/-- A parser after some events, with another mark. -/
def after (p : Parser) (mark : Mark) (events : List Event) : Parser :=
  { p with
    mark := mark
    written := p.written ++ Log.writeAll p.level (events.map Event.entry) }

variable (p : Parser) (mark mark' : Mark)

@[simp] theorem after_limit (events : List Event) : (p.after mark events).limit = p.limit := rfl

theorem after_nil : p.after mark [] = { p with mark := mark } := by
  unfold after
  rw [List.map_nil, Log.writeAll, List.map_nil, String.join_nil, String.append_empty]

theorem after_singleton (e : Event) :
    p.after mark [e] =
      { p with mark := mark, written := p.written ++ Log.write p.level e.entry } := by
  unfold after
  rw [List.map_singleton, Log.writeAll, List.map_singleton, String.join_cons, String.join_nil,
    String.append_empty]

theorem after_after (events events' : List Event) :
    (p.after mark events).after mark' events' = p.after mark' (events ++ events') := by
  unfold after
  rw [List.map_append, Log.writeAll_append, String.append_assoc]

end Parser

namespace Working

variable {β γ : Type}

/-! ## Runs of the steps -/

section Runs

variable (s : ParseState) (p : Parser)

theorem run_get_bind (k : ParseState → Working γ) : (get >>= k).run s p = (k s).run s p := rfl

theorem run_getThe_bind (k : Parser → Working γ) :
    (getThe Parser >>= k).run s p = (k p).run s p := rfl

theorem run_modify_bind (g : ParseState → ParseState) (k : Unit → Working γ) :
    (modify g >>= k).run s p = (k ()).run (g s) p := rfl

theorem run_setMark_bind (m : Mark) (k : Unit → Working γ) :
    (setMark m >>= k).run s p = (k ()).run s { p with mark := m } := rfl

theorem run_tell_bind (e : Event) (k : Unit → Working γ) :
    (tell e >>= k).run s p = (k ()).run s (p.after p.mark [e]) := by
  rw [Parser.after_singleton]
  rfl

end Runs

/-! ## Playing a step -/

/-- A step with a parser ends as a recording step does, and leaves the parser as it is after the
events of the other. -/
def Plays (limit : Option Int) (R : β → γ → Prop) (w : Working β) (d : Descent γ) : Prop :=
  ∀ s p, p.limit = limit →
    Ends .parse R (w.run s p).1 (d s).outcome ∧
      ∃ mark, (w.run s p).2 = p.after mark (d s).events

/-- The steps with a parser that allows a given number of open groups play recording steps. -/
def playing (limit : Option Int) : Simulation Working Descent where
  Rel := Plays limit
  pure := by
    intro β γ R b c h s p hlimit
    exact ⟨.passed h s, p.mark, (p.after_nil p.mark).symm⟩
  bind := by
    intro β γ δ ε R S w d k l h hk s p hlimit
    obtain ⟨hends, mark, hafter⟩ := h s p hlimit
    rw [run_bind]
    rcases hw : w.run s p with ⟨outcome, p'⟩
    rcases hd : d s with ⟨events, outcome'⟩
    rw [hw, hd] at hends hafter
    obtain rfl : p' = p.after mark events := hafter
    dsimp only at hends
    cases hends with
    | failed e =>
      rw [Descent.bind_of_error hd]
      exact ⟨.failed e, mark, rfl⟩
    | @passed b c hbc s' =>
      rw [Descent.bind_of_ok hd]
      obtain ⟨hends', mark', hafter'⟩ := hk b c hbc s' (p.after mark events) hlimit
      exact ⟨hends', mark', hafter'.trans (p.after_after mark mark' events (l c s').events)⟩

variable {limit : Option Int}

/-! ## The operations -/

theorem plays_fail (R : β → γ → Prop) (e : ParseFailure) :
    Plays limit R (fail e) (Descent.fail e) :=
  fun _ p _ => ⟨.failed e, p.mark, (p.after_nil p.mark).symm⟩

/-- What is pulled does not depend on the mark that the lexer has. -/
theorem plays_advance : Plays limit Eq advance Descent.advance := by
  intro s p hlimit
  unfold advance Descent.advance
  rw [run_get_bind, run_getThe_bind, ← pullMarking_fst s.text s.cursor p.mark]
  rcases pullMarking s.text s.cursor p.mark with ⟨e | ⟨_ | t, cursor⟩, mark⟩
  · exact ⟨.failed _, mark, (p.after_nil mark).symm⟩
  all_goals
    dsimp only
    rw [run_setMark_bind, run_tell_bind]
    exact ⟨.passed rfl _, mark, rfl⟩

theorem plays_enter (index : Int) : Plays limit Eq (enter index) (Descent.enter limit index) := by
  rintro s p rfl
  unfold enter
  rw [run_modify_bind, run_get_bind, run_tell_bind, run_getThe_bind]
  obtain ⟨m, hlimit, henter⟩ | ⟨hlimit, henter⟩ := enter_cases p.limit index s
  · rw [henter]
    simp only [Parser.after_limit, hlimit]
    exact ⟨.failed _, p.mark, rfl⟩
  · rw [henter]
    simp only [Parser.after_limit, hlimit]
    exact ⟨.passed rfl _, p.mark, rfl⟩

theorem plays_leave : Plays limit Eq leave Descent.leave := by
  intro s p hlimit
  unfold leave Descent.leave
  rw [run_get_bind, run_tell_bind]
  exact ⟨.passed rfl _, p.mark, rfl⟩

theorem agree : Operations.Agree (playing limit) operations (Descent.operations limit) where
  current := fun s p _ => ⟨.passed rfl s, p.mark, (p.after_nil p.mark).symm⟩
  advance := plays_advance
  enter := plays_enter
  leave := plays_leave
  fail := plays_fail

/-- The nodes are counted where the log takes the report, and counting them never fails. -/
theorem plays_report (text : Text) (formula : Formula) :
    Plays limit Eq (report text formula) (Descent.record (.parsed text formula.size)) := by
  intro s p hlimit
  unfold report Descent.record
  rw [run_getThe_bind]
  refine ⟨?_, p.mark, ?_⟩
  all_goals
    by_cases hadmits : p.level.admits .verbose = true
  · rw [if_pos hadmits, formula.count_eq, formula.foreigners_eq_nil]
    exact .passed rfl s
  · rw [if_neg hadmits]
    exact .passed rfl s
  · rw [if_pos hadmits, formula.count_eq, formula.foreigners_eq_nil, Parser.after_singleton]
    rfl
  · have hnothing : Log.write p.level (Event.parsed text formula.size).entry = "" := if_neg hadmits
    rw [if_neg hadmits, Parser.after_singleton, hnothing, String.append_empty]
    rfl

theorem plays_wholeText (text : Text) :
    Plays limit Eq (wholeText text) (Parse.wholeText limit text) :=
  agree.wholeText (Makers.agree_plain _) fun formula _ h => h ▸ plays_report text formula

end Working

/-! ## Parses -/

/-- A parse with a parser ends like one that records its events under the limit of the parser. It
leaves the parser as it was but for a mark and for what the log admits of the events. -/
theorem Parser.parse_eq (p : Parser) (text : Text) :
    (p.parse text).1 = (Propositional.parse p.limit text).outcome.mapError .parse ∧
      ∃ mark, (p.parse text).2 = p.after mark (Propositional.parse p.limit text).events := by
  obtain ⟨hends, hafter⟩ := Working.plays_wholeText text ⟨text, 0, none, 0⟩ p rfl
  refine ⟨?_, hafter⟩
  have hid := congrFun Except.map_id (Propositional.parse p.limit text).outcome
  exact hends.map_fst.trans (congrArg (Except.mapError ParserFailure.parse) hid)

/-- A parse that writes a log ends like one that records its events, and writes the log of these. -/
theorem parseWriting_eq (limit : Option Int) (logger : Option Log.Level) (text : Text) :
    parseWriting limit logger text =
      ((parse limit text).outcome.mapError .parse,
        (parse limit text).log (logger.getD .silent)) := by
  obtain ⟨houtcome, mark, hparser⟩ := (Parser.new limit logger).parse_eq text
  have hwritten : ((Parser.new limit logger).parse text).2.written =
      (parse limit text).log (logger.getD .silent) := by
    rw [hparser]
    exact String.empty_append
  exact Prod.ext houtcome hwritten

end Propositional
