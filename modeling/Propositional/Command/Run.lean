import Propositional.Command.Arguments
import Propositional.Command.Input
import Propositional.Command.Usage
import Propositional.Node.Outline
import Propositional.Node.Render
import Propositional.Parse

/-!
# Running the command

A run of the command reads the arguments, finds the input, parses it and prints the tree. The texts
on its standard output are pieces in a fixed order: the log of the reading and of the parse, the
tree, and the statistics. Options decide which of the pieces are there.

Main statements: a run without input says so and prints nothing (`runWith_eq_failure`), and one
whose input is no formula prints nothing but its log (`runOn_of_failure`).
-/

namespace Propositional.Command

/-! ## Results -/

/-- How a run ends. -/
inductive Status where
  | success
  | noFormula
  | failure
  deriving DecidableEq

def Status.code : Status → Nat
  | .success => 0
  | .noFormula => 1
  | .failure => 2

/-- The result of a run: how it ends, and the texts on standard output and standard error. -/
structure Result where
  status : Status
  output : String
  errors : String
  deriving DecidableEq

def errorLine (message : String) : String := s!"Error: {message}\n"

/-! ## Pieces of output -/

def statistics (formula : Formula) : Except (Fault Empty) Log.Rows := do
  let names := (← formula.identifiers).map String.ofList
  return [("node_count", toString (← formula.count)), ("depth", toString (← formula.depth)),
    ("identifiers", ", ".intercalate names)]

/-- The statistics as they stand behind the tree: a heading, and a line for each row. -/
def statisticsBlock (rows : Log.Rows) : String :=
  rows.foldl (fun block row => block ++ s!"  {Log.Entry.labelOf row.1}: {row.2}\n")
    "=== Statistics ===\n"

def Format.render (format : Format) (formula : Formula) : Except (Fault Empty) String :=
  match format with
  | .canonical => do return String.ofList (← formula.render) ++ "\n"
  | .tree => do return String.ofList (← formula.outline)

/-- The style of a run: how the tree is printed, and how much is reported on the way. -/
structure Style where
  format : Format
  output : Output
  debug : Fin 4
  stats : Bool

namespace Style

def level (s : Style) : Log.Level := levelFor s.output.word (s.debug.val : Int)

/-- The tree is printed. -/
def showsTree (s : Style) : Bool := s.output ≠ .silent

/-- The log is printed. A debug level keeps it visible where nothing else is printed. -/
def showsLog (s : Style) : Bool := s.showsTree || 0 < s.debug.val

def logged (s : Style) (entries : List Log.Entry) : String :=
  if s.showsLog then Log.writeAll s.level entries else ""

/-- What is printed of a text that belongs to the tree. -/
def shown (s : Style) (text : String) : String := if s.showsTree then text else ""

/-- What is printed of the statistics of a formula. They go to the log if it takes them, and
otherwise follow the tree if they are asked for. -/
def statisticsText (s : Style) (formula : Formula) : Except (Fault Empty) String := do
  if s.level.admits .verbose then return s.logged [.statistics (← statistics formula)]
  else if s.stats then return s.shown (statisticsBlock (← statistics formula))
  else return ""

def formulaText (s : Style) (formula : Formula) : Except (Fault Empty) String := do
  let tree ← s.format.render formula
  return s.shown tree ++ (← s.statisticsText formula)

end Style

/-- The style that options ask for, unless the debug level is void. -/
def Options.style? (o : Options) : Option Style :=
  match o.debug with
  | .proper debug => some ⟨o.format, o.output, debug, o.stats⟩
  | .void => none

def faultMessage : Fault Empty → String
  | .missingOperand => "a connective lacks an operand"
  | .nothingVisited => "a tree has no nodes"

/-! ## Limits -/

/-- The limit on open groups. A void limit is found out when the first group is opened, just where a
limit of zero is exceeded. -/
def limitFor : Option (Given Int) → Int
  | none => Parse.defaultLimit
  | some (.proper m) => m
  | some .void => 0

/-- How a run ends if its input cannot be parsed within a limit, and the report of it. -/
def endOfFailure (maxDepth : Option (Given Int)) (failure : ParseFailure) : Status × String :=
  match maxDepth, failure with
  | some .void, .limitExceeded _ => (.failure, VoidUse.limit.message)
  | _, .limitUnwritable => (.failure, failure.message)
  | _, _ => (.noFormula, failure.message)

/-! ## Runs -/

/-- The result of a run with a given style and limit on an input. -/
def runOn (style : Style) (maxDepth : Option (Given Int)) (input : Input) : Result :=
  let p := parse (some (limitFor maxDepth)) input.text
  let trace := style.logged (input.entries ++ p.events.map Event.entry)
  match p.outcome with
  | .error failure =>
    let e := endOfFailure maxDepth failure
    ⟨e.1, trace, errorLine e.2⟩
  | .ok formula =>
    match style.formulaText formula with
    | .error fault => ⟨.failure, trace, errorLine (faultMessage fault)⟩
    | .ok text => ⟨.success, trace ++ text, ""⟩

/-- The result of a run with given options. The input is found before the debug level is used. -/
def runWith (find : Path → Found) (o : Options) : Result :=
  match Input.ofOrigin find o.origin, o.style? with
  | .error failure, _ => ⟨.failure, "", errorLine failure.message⟩
  | .ok _, none => ⟨.failure, "", errorLine VoidUse.debug.message⟩
  | .ok input, some style => runOn style o.maxDepth input

/-- The result of a run that ends with the reading of its arguments. -/
def Stop.result : Stop → Result
  | .help => ⟨.success, helpText, ""⟩
  | .version => ⟨.success, s!"{programName} {versionNumber}\n", ""⟩
  | .error e => ⟨.failure, "", usageText ++ s!"{programName}: error: {e.message}\n"⟩

/-- The result of a run with given arguments. -/
def run (find : Path → Found) (arguments : List Text) : Result :=
  match readArguments arguments with
  | .error stop => stop.result
  | .ok o => runWith find o

/-- The path of the file that a run with given arguments reads, if it reads one. -/
def requestedPath? (arguments : List Text) : Option Path :=
  match readArguments arguments with
  | .ok ⟨.file (.proper path), _, _, _, _, _⟩ => some (.ofText path)
  | _ => none

/-! ## Failing runs -/

theorem runWith_eq_failure {find : Path → Found} {o : Options} {failure : InputFailure}
    (h : Input.ofOrigin find o.origin = .error failure) :
    runWith find o = ⟨.failure, "", errorLine failure.message⟩ := by
  simp [runWith, h]

theorem runOn_of_failure {style : Style} {maxDepth : Option (Given Int)} (input : Input)
    {failure : ParseFailure}
    (h : (parse (some (limitFor maxDepth)) input.text).outcome = .error failure) :
    runOn style maxDepth input =
      ⟨(endOfFailure maxDepth failure).1,
        style.logged (input.entries ++
          (parse (some (limitFor maxDepth)) input.text).events.map Event.entry),
        errorLine (endOfFailure maxDepth failure).2⟩ := by
  simp only [runOn, h]

end Propositional.Command
