import Propositional.Proofs.Arguments
import Propositional.Proofs.Limits
import Propositional.Proofs.Output

/-!
# Exit codes and reports

How a run of the command ends, and what it writes on standard error, is settled by its source and by
the limit on open groups (`Exits`). How the tree is printed, and how much is reported on the way,
has no part in it, as long as the debug level is not void (`exits_iff`). A void debug level is found
out when the log is set up, and the run fails (`exists_run_of_void`).

1. `exists_exits`: every source and every limit allow for a way to end.
2. `Exits.run_eq`: all runs with this source and this limit end so. Behind the source only the parse
   can fail, because the texts of a formula can always be had (`Style.formulaText_eq`).
-/

namespace Propositional.Command

variable {find : Path → Found} {arguments : List Text} {o : Options}

/-! ## Ways to end -/

/-- The exit codes and texts on standard error that a source and a limit allow for. A text that is
parsed leads to 0, one that is not to 1, and a source without a text to 2. So does a void limit,
where a group is opened. -/
inductive Exits (find : Path → Found) (origin : Origin) (maxDepth : Option (Given Int)) :
    Nat → String → Prop
  | formula {text : Text} {p : Formula} : HasText find origin text →
    (parse (some (limitFor maxDepth)) text).outcome = .ok p → Exits find origin maxDepth 0 ""
  | noFormula {text : Text} {failure : ParseFailure} : HasText find origin text →
    (parse (some (limitFor maxDepth)) text).outcome = .error failure →
    (maxDepth = some .void → ∀ m, failure ≠ .limitExceeded m) →
      Exits find origin maxDepth 1 ("Error: " ++ failure.message ++ "\n")
  | noText {failure : InputFailure} : LacksText find origin failure →
    Exits find origin maxDepth 2 ("Error: " ++ failure.message ++ "\n")
  | voidLimit {text : Text} {m : Int} : HasText find origin text →
    (parse (some (limitFor maxDepth)) text).outcome = .error (.limitExceeded m) →
    maxDepth = some .void →
      Exits find origin maxDepth 2 ("Error: " ++ VoidUse.limit.message ++ "\n")

theorem endOfFailure_eq {maxDepth : Option (Given Int)} {failure : ParseFailure}
    (h : maxDepth = some .void → ∀ m, failure ≠ .limitExceeded m)
    (hwritable : failure ≠ .limitUnwritable) :
    endOfFailure maxDepth failure = (.noFormula, failure.message) := by
  unfold endOfFailure
  split
  · rename_i m
    exact absurd rfl (h rfl m)
  · exact absurd rfl hwritable
  · rfl

/-- The limit of a run can be written, so it is quoted wherever it is exceeded. -/
theorem outcome_ne_limitUnwritable (harguments : readArguments arguments = .ok o) (text : Text) :
    (parse (some (limitFor o.maxDepth)) text).outcome ≠ .error .limitUnwritable := by
  intro h
  obtain ⟨m, hm, hunwritable⟩ := exists_of_outcome_eq_limitUnwritable h
  have hwritable : Text.isWritable (limitFor o.maxDepth) = true := by
    rcases hdepth : o.maxDepth with _ | m | _
    · decide
    · exact isWritable_of_readArguments harguments hdepth
    · decide
  cases hm
  cases hunwritable.symm.trans hwritable

/-! ## Runs -/

theorem run_of_lacksText {failure : InputFailure} (harguments : readArguments arguments = .ok o)
    (h : LacksText find o.origin failure) :
    run find arguments = ⟨.failure, "", errorLine failure.message⟩ := by
  rw [run, harguments]
  exact runWith_eq_failure h.ofOrigin_eq

theorem exists_run_of_void (find : Path → Found) (harguments : readArguments arguments = .ok o)
    (hdebug : o.debug = .void) :
    ∃ message, run find arguments = ⟨.failure, "", errorLine message⟩ := by
  obtain ⟨text, htext⟩ | ⟨failure, hlacks⟩ := hasText_or_lacksText find o.origin
  · refine ⟨VoidUse.debug.message, ?_⟩
    rw [run, harguments]
    show runWith find o = _
    rw [runWith, htext.ofOrigin_eq, Options.style?, hdebug]
  · exact ⟨failure.message, run_of_lacksText harguments hlacks⟩

/-- A run ends in the way for which its source and its limit allow. -/
theorem Exits.run_eq {code : Nat} {errors : String}
    (h : Exits find o.origin o.maxDepth code errors)
    (harguments : readArguments arguments = .ok o) (hdebug : o.debug ≠ .void) :
    (run find arguments).status.code = code ∧ (run find arguments).errors = errors := by
  obtain ⟨debug, hdebug⟩ : ∃ debug, o.debug = .proper debug := by
    cases hd : o.debug with
    | proper debug => exact ⟨debug, rfl⟩
    | void => exact absurd hd hdebug
  let input (text : Text) : Input := ⟨text, Input.entriesFor o.origin text⟩
  cases h with
  | @formula text p htext hparse =>
    rw [run_eq_runOn harguments hdebug htext, runOn_of_formula (input text) hparse]
    exact ⟨rfl, rfl⟩
  | @noFormula text failure htext hparse hlimit =>
    have hwritable : failure ≠ .limitUnwritable := by
      rintro rfl
      exact outcome_ne_limitUnwritable harguments text hparse
    rw [run_eq_runOn harguments hdebug htext, runOn_of_failure (input text) hparse,
      endOfFailure_eq hlimit hwritable]
    exact ⟨rfl, rfl⟩
  | noText hlacks =>
    rw [run_of_lacksText harguments hlacks]
    exact ⟨rfl, rfl⟩
  | @voidLimit text m htext hparse hvoid =>
    rw [run_eq_runOn harguments hdebug htext, runOn_of_failure (input text) hparse, hvoid]
    exact ⟨rfl, rfl⟩

theorem exists_exits (find : Path → Found) (origin : Origin) (maxDepth : Option (Given Int)) :
    ∃ code errors, Exits find origin maxDepth code errors := by
  obtain ⟨text, htext⟩ | ⟨failure, hlacks⟩ := hasText_or_lacksText find origin
  · cases hparse : (parse (some (limitFor maxDepth)) text).outcome with
    | ok p => exact ⟨_, _, .formula htext hparse⟩
    | error failure =>
      by_cases hvoid : maxDepth = some .void ∧ ∃ m, failure = .limitExceeded m
      · obtain ⟨hvoid, m, rfl⟩ := hvoid
        exact ⟨_, _, .voidLimit htext hparse hvoid⟩
      · exact ⟨_, _, .noFormula htext hparse fun h m he => hvoid ⟨h, m, he⟩⟩
  · exact ⟨_, _, .noText hlacks⟩

/-- A run ends with an exit code and a text on standard error exactly if its source and its limit
allow for them, unless the debug level is void. So two runs with the same source and the same limit
end alike. With a void debug level a run fails with a report. -/
theorem exits_iff (harguments : readArguments arguments = .ok o) :
    (o.debug ≠ .void →
      (∀ code errors, (run find arguments).status.code = code ∧
        (run find arguments).errors = errors ↔ Exits find o.origin o.maxDepth code errors) ∧
      ∀ arguments' o', readArguments arguments' = .ok o' → o'.debug ≠ .void →
        o'.origin = o.origin → o'.maxDepth = o.maxDepth →
        (run find arguments').status.code = (run find arguments).status.code ∧
          (run find arguments').errors = (run find arguments).errors) ∧
    (o.debug = .void → (run find arguments).status.code = 2 ∧
      ∃ message, (run find arguments).errors = "Error: " ++ message ++ "\n") := by
  refine ⟨fun hdebug => ?_, fun hvoid => ?_⟩
  · obtain ⟨code, errors, hexits⟩ := exists_exits find o.origin o.maxDepth
    obtain ⟨hcode, herrors⟩ := hexits.run_eq harguments hdebug
    refine ⟨fun code' errors' => ⟨?_, fun h => h.run_eq harguments hdebug⟩,
      fun arguments' o' harguments' hdebug' horigin hlimit => ?_⟩
    · rintro ⟨rfl, rfl⟩
      rwa [hcode, herrors]
    · rw [hcode, herrors]
      exact Exits.run_eq (by rwa [horigin, hlimit]) harguments' hdebug'
  · obtain ⟨message, hrun⟩ := exists_run_of_void find harguments hvoid
    rw [hrun]
    exact ⟨rfl, message, rfl⟩

/-- A group that is not closed is reported alike, with the tree alone or with everything else. -/
theorem exits_openGroup :
    ((run (fun _ => .nothing) ["(a".toList]).status.code = 1 ∧
      (run (fun _ => .nothing) ["(a".toList]).errors =
        "Error: Syntax error: expected ')', got end of input\n") ∧
    (run (fun _ => .nothing) (["(a", "-osilent", "-d3", "--stats"].map String.toList)).status.code =
      (run (fun _ => .nothing) ["(a".toList]).status.code ∧
    (run (fun _ => .nothing) (["(a", "-osilent", "-d3", "--stats"].map String.toList)).errors =
      (run (fun _ => .nothing) ["(a".toList]).errors := by
  have harguments : readArguments ["(a".toList] =
      .ok ⟨.expression "(a".toList, .tree, .normal, .proper 0, none, false⟩ := rfl
  have harguments' : readArguments (["(a", "-osilent", "-d3", "--stats"].map String.toList) =
      .ok ⟨.expression "(a".toList, .tree, .silent, .proper 3, none, true⟩ := rfl
  have hparse : (parse (some (limitFor none)) "(a".toList).outcome =
      .error (.incomplete .closing) := by decide +kernel
  obtain ⟨hexits, halike⟩ := (exits_iff harguments).1 nofun
  exact ⟨(hexits 1 _).2 (.noFormula (.expression _) hparse nofun),
    halike _ _ harguments' nofun rfl rfl⟩

/-- A void debug level makes a run fail whose text can be parsed. -/
theorem not_forall_exits_success :
    ¬ ∀ (find : Path → Found) (arguments : List Text) (o : Options) (text : Text) (p : Formula),
      readArguments arguments = .ok o → HasText find o.origin text →
      (parse (some (limitFor o.maxDepth)) text).outcome = .ok p →
        (run find arguments).status.code = 0 ∧ (run find arguments).errors = "" := by
  intro h
  have hparse : (parse (some (limitFor none)) ['a']).outcome =
      .ok (.bare (.identifier Progress.someName)) := by decide +kernel
  have hrun : (run (fun _ => .nothing) (["a", "-d--"].map String.toList)).status = .failure := rfl
  obtain ⟨hcode, -⟩ := h (fun _ => .nothing) (["a", "-d--"].map String.toList)
    ⟨.expression ['a'], .tree, .normal, .void, none, false⟩ ['a'] _ rfl (.expression _) hparse
  rw [hrun] at hcode
  cases hcode

end Propositional.Command
