import Propositional.Proofs.Lines
import Propositional.Proofs.Output
import Propositional.Proofs.Reuse
import Propositional.Proofs.Parsers

/-!
# The lines of a log

What a log of debugging writes in the course of a parse can be read back line by line: it is made up
of rows (`Parse.toList_log_debug`), and no row breaks its line (`newline_notMem_rows`), whatever the
text that it quotes (`Text.newline_notMem_quoted`). Only the report on a formula begins like one.

`levelsNest`: a log changes nothing of the parse that writes it, and a log of a higher level ends
with what one of a lower level writes.
-/

namespace Propositional

/-! ## Numbers and quoted texts -/

namespace Text

theorem exists_digitChar_of_mem_toDigits {b n : ℕ} {c : Char} (hb : 1 < b)
    (h : c ∈ Nat.toDigits b n) : ∃ k, c = Nat.digitChar k := by
  induction n using Nat.strong_induction_on with
  | _ n ih =>
    rw [Nat.toDigits_eq_if hb] at h
    by_cases hlt : n < b
    · rw [if_pos hlt] at h
      exact ⟨n, List.mem_singleton.1 h⟩
    · rw [if_neg hlt] at h
      rcases List.mem_append.1 h with h | h
      · exact ih (n / b) (Nat.div_lt_self (by omega) hb) h
      · exact ⟨n % b, List.mem_singleton.1 h⟩

theorem newline_notMem_toDigits {b : ℕ} (hb : 1 < b) (n : ℕ) : '\n' ∉ Nat.toDigits b n := by
  intro h
  obtain ⟨k, hk⟩ := exists_digitChar_of_mem_toDigits hb h
  exact Nat.digitChar_ne '\n' (by decide) hk.symm

theorem newline_notMem_codeEscape (n : ℕ) : '\n' ∉ codeEscape n := by
  have hhexadecimal : ∀ width, '\n' ∉ hexadecimal width n := by
    intro width h
    rcases List.mem_append.1 h with h | h
    · exact absurd (List.eq_of_mem_replicate h) (by decide)
    · exact newline_notMem_toDigits (by decide) n h
  unfold codeEscape
  split_ifs <;> simp [hhexadecimal]

theorem newline_notMem_quotedChar {quote : Char} (hquote : quote ≠ '\n') (c : Char) :
    '\n' ∉ quotedChar quote c := by
  unfold quotedChar
  split_ifs with hescaped hnewline hreturn htab hprintable
  · -- the character is the quote or a backslash
    rcases hescaped with rfl | rfl
    · simp [hquote.symm]
    · simp
  · simp
  · simp
  · simp
  · simp [Ne.symm hnewline]
  · exact newline_notMem_codeEscape _

theorem newline_notMem_quoted (text : Text) : '\n' ∉ text.quoted := by
  have hquote : quoteFor text ≠ '\n' := by
    unfold quoteFor
    split_ifs <;> decide
  unfold quoted
  intro h
  rcases List.mem_append.1 h with h | h
  · rcases List.mem_cons.1 h with h | h
    · exact hquote h.symm
    · obtain ⟨c, -, hc⟩ := List.mem_flatMap.1 h
      exact newline_notMem_quotedChar hquote c hc
  · exact hquote (List.mem_singleton.1 h).symm

theorem newline_notMem_numeral (i : ℤ) : '\n' ∉ i.repr.toList := by
  have hnatural : ∀ n : ℕ, '\n' ∉ n.repr.toList := by
    intro n
    rw [Nat.repr_eq_ofList_toDigits, String.toList_ofList]
    exact newline_notMem_toDigits (by decide) n
  rw [Int.repr_eq_if]
  split_ifs
  · exact hnatural _
  · rw [String.toList_append]
    intro h
    rcases List.mem_append.1 h with h | h
    · exact absurd h (by decide)
    · exact hnatural _ h

end Text

/-! ## Rows of a log -/

/-- The lines of an entry, without their ends. -/
def Log.Entry.rows (e : Log.Entry) : List Text := e.lines.map String.toList

theorem Log.Entry.toList_written (e : Log.Entry) : e.written.toList = Text.ofLines e.rows := by
  unfold written rows Text.ofLines
  rw [String.toList_join, List.flatMap_map, List.flatMap_map]
  exact List.flatMap_congr fun line _ => String.toList_append

theorem Parse.toList_log_debug (p : Parse) :
    (p.log .debug).toList = Text.ofLines (p.events.flatMap fun e => e.entry.rows) := by
  rw [Parse.log_debug, String.toList_join, List.flatMap_map]
  induction p.events with
  | nil => rfl
  | cons e events ih =>
    rw [List.flatMap_cons, List.flatMap_cons, ih, ← Event.written_entry,
      Log.Entry.toList_written, Text.ofLines_append]

theorem newline_notMem_rows (e : Event) : ∀ row ∈ e.entry.rows, '\n' ∉ row := by
  have hname : ∀ kind : Lexeme.Kind, '\n' ∉ kind.name.toList := by
    rintro (_ | _ | op | _ | _)
    any_goals decide
    cases op <;> decide
  have hindex := Text.newline_notMem_numeral
  have hdepth := Text.newline_notMem_toDigits (b := 10) (by decide)
  unfold Event.entry Log.Entry.rows Log.Entry.lines
  cases e with
  | pulled t => simp [hname, Text.newline_notMem_quoted, hindex]
  | finished index => simp [hindex]
  | entered depth index => simp [Log.Entry.rowLine, hdepth, hindex]
  | left depth => simp [Log.Entry.rowLine, hdepth]
  | parsed text nodes => simp [Text.newline_notMem_quoted, hindex]

theorem not_begins_of_not_parses {e : Event} (h : e.parses = false) :
    ∀ row ∈ e.entry.rows, ¬ "PARSED".toList <+: row := by
  have hhead : ∀ row ∈ e.entry.rows, row.head? ≠ some 'P' := by
    unfold Event.entry Log.Entry.rows Log.Entry.lines
    cases e with
    | pulled t => simp
    | finished index => simp
    | entered depth index => simp [Log.Entry.rowLine]
    | left depth => simp [Log.Entry.rowLine]
    | parsed text nodes => cases h
  rintro row hrow ⟨rest, rfl⟩
  exact hhead _ hrow rfl

/-! ## Levels -/

theorem parsedLine_eq (text : Text) (p : Formula) :
    parsedLine text p = s!"PARSED: {String.ofList text.quoted} ({p.size} nodes)" ++ "\n" := by
  have hend : " nodes)\n" = " nodes)" ++ "\n" := rfl
  unfold parsedLine
  rw [hend]
  exact String.append_assoc.symm

section Logs

variable {limit : Option Int} {text : Text}

theorem exists_log_debug (limit : Option Int) (text : Text) :
    ∃ front, (parse limit text).log .debug = front ++ (parse limit text).log .verbose := by
  rcases hparse : (parse limit text).outcome with e | p
  · rw [log_verbose_of_failure hparse]
    exact ⟨_, String.append_empty.symm⟩
  · rw [log_verbose_of_formula hparse]
    exact exists_log_debug_of_formula hparse

theorem exists_log_of_rank_le {low high : Log.Level} (h : low.rank ≤ high.rank) :
    ∃ front, (parse limit text).log high = front ++ (parse limit text).log low := by
  by_cases heq : high = low
  · rw [heq]
    exact ⟨"", String.empty_append.symm⟩
  by_cases hlow : low.admits .verbose = true
  · -- the lower log is verbose, and the higher one is of debugging
    obtain ⟨rfl, rfl⟩ : low = .verbose ∧ high = .debug := by
      cases low <;> cases high <;> simp_all [Log.Level.rank, Log.Level.admits]
    exact exists_log_debug limit text
  · have hempty : (parse limit text).log low = "" :=
      Command.writeAll_eq_empty (Bool.not_eq_true _ ▸ hlow) _
    rw [hempty]
    exact ⟨_, String.append_empty.symm⟩

end Logs

/-- What comes of a parse, and what is written of it, with and without a log. -/
structure LevelsNest (limit : Option Int) (text : Text) : Prop where
  /-- The outcome is the same with a log of any level and without a log. -/
  outcome : ∀ logger, (parseWriting limit logger text).1 =
    (parse limit text).outcome.mapError .parse
  /-- What is written at a level is what is written last at a higher one. -/
  nest : ∀ low high : Log.Level, low.rank ≤ high.rank → ∃ front,
    (parseWriting limit (some high) text).2 = front ++ (parseWriting limit (some low) text).2
  /-- Without a log, or with one that takes no reports, nothing is written. -/
  empty : ∀ logger ∈ [none, some .silent, some .normal], (parseWriting limit logger text).2 = ""
  /-- Of a formula, a verbose log is one line. -/
  formula : ∀ p, (parse limit text).outcome = .ok p → ∃ (n : Nat) (line : String),
    p.count = .ok n ∧ line = s!"PARSED: {String.ofList text.quoted} ({n} nodes)" ∧
      '\n' ∉ line.toList ∧ (parseWriting limit (some .verbose) text).2 = line ++ "\n"
  /-- Where there is no formula, a verbose log is empty, and no line of a log of debugging begins
  like one on a formula. -/
  failure : ∀ e, (parse limit text).outcome = .error e →
    (parseWriting limit (some .verbose) text).2 = "" ∧
      ∃ lines, (parseWriting limit (some .debug) text).2.toList = Text.ofLines lines ∧
        ∀ line ∈ lines, '\n' ∉ line ∧ ¬ "PARSED".toList <+: line

/-- A log changes nothing of a parse, and a log of a higher level ends with what one of a lower
level writes. -/
theorem levelsNest (limit : Option Int) (text : Text) : LevelsNest limit text := by
  have hwritten : ∀ logger, (parseWriting limit logger text).2 =
      (parse limit text).log (logger.getD .silent) := by
    intro logger
    rw [parseWriting_eq]
  constructor
  case outcome =>
    intro logger
    rw [parseWriting_eq]
  case nest =>
    intro low high h
    rw [hwritten, hwritten]
    exact exists_log_of_rank_le h
  case empty =>
    intro logger h
    rw [hwritten]
    refine Command.writeAll_eq_empty ?_ _
    revert logger
    decide
  case formula =>
    intro p hp
    refine ⟨p.size, s!"PARSED: {String.ofList text.quoted} ({p.size} nodes)", ?_, rfl, ?_, ?_⟩
    · rw [p.count_eq, p.foreigners_eq_nil]
      rfl
    · exact newline_notMem_rows (.parsed text p.size) _ (List.mem_singleton.2 rfl)
    · rw [hwritten, ← parsedLine_eq]
      exact log_verbose_of_formula hp
  case failure =>
    intro e he
    rw [hwritten, hwritten]
    refine ⟨log_verbose_of_failure he, _, Parse.toList_log_debug _, ?_⟩
    intro line hline
    obtain ⟨event, hevent, hrow⟩ := List.mem_flatMap.1 hline
    exact ⟨newline_notMem_rows event line hrow,
      not_begins_of_not_parses (events_of_failure he event hevent) line hrow⟩

/-- Of a name with a line feed behind it, one line is written. Of an open group, no line is. -/
theorem written_nameThenBreak :
    (parseWriting none (some .verbose) "a\n".toList).2 = "PARSED: 'a\\n' (2 nodes)\n" ∧
      (parseWriting none (some .verbose) "(a".toList).2 = "" ∧
      (parseWriting none (some .debug) "(a".toList).1.isOk = false := by
  have hname : (parse none "a\n".toList).outcome =
      .ok (.bare (.identifier Progress.someName)) := by decide +kernel
  have hgroup : (parse none "(a".toList).outcome = .error (.incomplete .closing) := by
    decide +kernel
  obtain ⟨n, line, hn, rfl, -, hline⟩ := (levelsNest none "a\n".toList).formula _ hname
  obtain rfl : n = 2 := Except.ok.inj (hn.symm.trans (by decide +kernel))
  refine ⟨hline.trans (by decide +kernel), ?_, ?_⟩
  · exact ((levelsNest none "(a".toList).failure _ hgroup).1
  · rw [(levelsNest none "(a".toList).outcome, hgroup]
    rfl

end Propositional
