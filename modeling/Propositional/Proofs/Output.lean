import Propositional.Command.Run
import Propositional.Proofs.Measures
import Propositional.Proofs.Rendering
import Propositional.Proofs.Sources
import Propositional.Proofs.Trace

/-!
# Standard output in pieces

What a run of the command prints is put together from the same five pieces, whatever its options are
(`printsPieces`). The amount of output and the debug level decide which pieces there are, and the
format decides on one of them only.

1. `events_of_formula` and `events_of_failure`: a parse tells of its formula in the last event, and
   in no other.
2. `Style.logged_eq`: so what is printed of the log on the way is the report on the file and, of the
   parse, the trace or what it tells of the formula.
3. `Style.formulaText_eq`: the texts of a formula can always be had, and the statistics are the same
   in the log and behind the tree (`statisticsBlock_eq_written`).
-/

namespace Propositional

/-! ## Events on formulas -/

/-- An event tells of a formula. -/
def Event.parses : Event → Bool
  | .parsed _ _ => true
  | _ => false

section Events

variable {limit : Option Int} {text : Text} {ts : List Token} {f : Option ForeignCharacter}
  {e : Event}

theorem parses_of_mem_pulls (h : e ∈ pulls text ts f) : e.parses = false := by
  unfold pulls at h
  split at h <;> simp_all [Event.parses]

theorem parses_of_mem_leaves {depth : Nat} (h : e ∈ leaves depth ts f) : e.parses = false := by
  unfold leaves at h
  split at h <;> simp_all [Event.parses]

theorem parses_of_mem_account {q : Progress} (h : e ∈ (account limit text q ts f).events) :
    e.parses = false := by
  fun_induction account limit text q ts f with
  | case1 | case2 | case3 => cases h
  | case4 q t ts f r hstep ht failure hrefused ih =>
    rw [List.mem_singleton.1 h]
    rfl
  | case5 q t ts f r hstep rest ht hallowed ih =>
    obtain h | h := List.mem_append.1 h
    · obtain h | h := List.mem_append.1 h
      · rw [List.mem_singleton.1 h]
        rfl
      · exact parses_of_mem_pulls h
    · exact ih h
  | case6 q t ts f r hstep rest ht ih =>
    obtain h | h := List.mem_append.1 h
    · exact (List.mem_append.1 h).elim parses_of_mem_pulls parses_of_mem_leaves
    · exact ih h
  | case7 q t ts f r hstep rest ho hc ih =>
    exact (List.mem_append.1 h).elim parses_of_mem_pulls ih

/-- A parse that delivers a formula tells of it in the end, and not before. -/
theorem events_of_formula {p : Formula} (h : (parse limit text).outcome = .ok p) :
    ∃ front, (∀ e ∈ front, e.parses = false) ∧
      (parse limit text).events = front ++ [.parsed text p.size] := by
  obtain ⟨failure, -, hparse⟩ | ⟨p', -, -, -, hparse⟩ :=
    parse_eq_account limit (rfl : tokenize text 1 0 = ⟨_, _⟩)
  · rw [hparse] at h
    cases h
  · rw [hparse] at h ⊢
    cases h
    refine ⟨_, fun e he => ?_, (List.append_assoc _ _ _).symm⟩
    exact (List.mem_append.1 he).elim parses_of_mem_pulls parses_of_mem_account

theorem events_of_failure {failure : ParseFailure}
    (h : (parse limit text).outcome = .error failure) :
    ∀ e ∈ (parse limit text).events, e.parses = false := by
  obtain ⟨failure, -, hparse⟩ | ⟨p, -, -, -, hparse⟩ :=
    parse_eq_account limit (rfl : tokenize text 1 0 = ⟨_, _⟩)
  · rw [hparse]
    intro e he
    exact (List.mem_append.1 he).elim parses_of_mem_pulls parses_of_mem_account
  · rw [hparse] at h
    cases h

end Events

/-! ## What a log writes -/

/-- What is said of a formula that was parsed from a text. -/
def parsedLine (text : Text) (p : Formula) : String :=
  s!"PARSED: {String.ofList text.quoted} ({p.size} nodes)\n"

section ParseLogs

variable {limit : Option Int} {text : Text}

theorem writeAll_verbose_of_not_parses {events : List Event}
    (h : ∀ e ∈ events, e.parses = false) :
    Log.writeAll .verbose (events.map Event.entry) = "" := by
  refine Log.writeAll_of_not_admits fun entry hentry => ?_
  obtain ⟨e, he, rfl⟩ := List.mem_map.1 hentry
  have hparses := h e he
  cases e <;> first | rfl | cases hparses

theorem log_verbose_of_formula {p : Formula} (h : (parse limit text).outcome = .ok p) :
    (parse limit text).log .verbose = parsedLine text p := by
  obtain ⟨front, hfront, hevents⟩ := events_of_formula h
  have hlast : Log.writeAll .verbose [(Event.parsed text p.size).entry] = parsedLine text p := by
    have hadmits : Log.Level.verbose.admits (Event.parsed text p.size).entry.level = true := rfl
    rw [Log.writeAll, List.map_singleton, Log.write, if_pos hadmits, Event.written_entry,
      String.join_cons, String.join_nil, String.append_empty]
    rfl
  -- Only the last event is admitted.
  rw [Parse.log, hevents, List.map_append, Log.writeAll_append,
    writeAll_verbose_of_not_parses hfront, List.map_singleton, hlast, String.empty_append]

theorem log_verbose_of_failure {failure : ParseFailure}
    (h : (parse limit text).outcome = .error failure) : (parse limit text).log .verbose = "" :=
  writeAll_verbose_of_not_parses (events_of_failure h)

theorem exists_log_debug_of_formula {p : Formula} (h : (parse limit text).outcome = .ok p) :
    ∃ front, (parse limit text).log .debug = front ++ parsedLine text p := by
  obtain ⟨front, -, hevents⟩ := events_of_formula h
  refine ⟨String.join (front.map Event.lines), ?_⟩
  rw [Parse.log_debug, hevents, List.map_append, String.join_append, List.map_singleton,
    String.join_cons, String.join_nil, String.append_empty]
  rfl

end ParseLogs

namespace Command

/-! ## Texts of a formula -/

/-- The rows of the statistics of a formula. -/
def rowsFor (p : Formula) : Log.Rows :=
  [("node_count", toString p.size), ("depth", toString p.height),
    ("identifiers", ", ".intercalate ((Text.sortDistinct p.names).map String.ofList))]

/-- The statistics of a formula, with their heading. -/
def statisticsOf (p : Formula) : String :=
  let names := ", ".intercalate ((Text.sortDistinct p.names).map String.ofList)
  "=== Statistics ===\n" ++ s!"  Node Count: {p.size}\n" ++ s!"  Depth: {p.height}\n" ++
    s!"  Identifiers: {names}\n"

/-- A formula in a format: its canonical text in a line, or its outline. -/
def printed : Format → Formula → String
  | .canonical, p => String.ofList p.text ++ "\n"
  | .tree, p => String.ofList (p.indented 0)

theorem statistics_eq (p : Formula) : statistics p = .ok (rowsFor p) := by
  rw [statistics, Node.identifiers_eq, Node.count_eq, Node.depth_eq, Node.foreigners_eq_nil]
  rfl

theorem Format.render_eq (format : Format) (p : Formula) :
    format.render p = .ok (printed format p) := by
  cases format with
  | canonical =>
    rw [render, Node.render_eq]
    rfl
  | tree =>
    rw [render, Node.outline_eq, Node.foreigners_eq_nil]
    rfl

/-- The statistics behind the tree read like those in the log. -/
theorem statisticsBlock_eq_written (rows : Log.Rows) :
    statisticsBlock rows = (Log.Entry.statistics rows).written := by
  have hrows : ∀ block : String,
      rows.foldl (fun block row => block ++ s!"  {Log.Entry.labelOf row.1}: {row.2}\n") block =
        block ++ String.join
          ((rows.map fun row => Log.Entry.rowLine (Log.Entry.labelOf row.1, row.2)).map
            (· ++ "\n")) := by
    induction rows with
    | nil => intro block; simp
    | cons row rows ih =>
      intro block
      rw [List.foldl_cons, ih]
      simp [Log.Entry.rowLine, String.append_assoc]
  rw [statisticsBlock, hrows, Log.Entry.written, Log.Entry.lines, List.map_cons, String.join_cons]
  rfl

theorem written_statistics (count depth names : String) :
    (Log.Entry.statistics
      [("node_count", count), ("depth", depth), ("identifiers", names)]).written =
    "=== Statistics ===\n" ++ s!"  Node Count: {count}\n" ++ s!"  Depth: {depth}\n" ++
      s!"  Identifiers: {names}\n" := by
  have hcount : Log.Entry.labelOf "node_count" = "Node Count" := by decide +kernel
  have hdepth : Log.Entry.labelOf "depth" = "Depth" := by decide +kernel
  have hnames : Log.Entry.labelOf "identifiers" = "Identifiers" := by decide +kernel
  simp only [Log.Entry.written, Log.Entry.lines, List.map_cons, List.map_nil, hcount, hdepth,
    hnames, Log.Entry.rowLine, String.join_cons, String.join_nil, Log.Entry.toString_self,
    String.append_empty]
  simp [String.append_assoc]

theorem written_rowsFor (p : Formula) :
    (Log.Entry.statistics (rowsFor p)).written = statisticsOf p :=
  written_statistics _ _ _

/-! ## What is printed of the log -/

/-- The report that a file was read. There is none for an expression. -/
def readingText : Origin → Text → String
  | .file (.proper path), text =>
    "[INFO] Read proposition file\n" ++ s!"  path: {String.ofList (Path.ofText path).text}\n" ++
      s!"  length: {text.length}\n"
  | _, _ => ""

theorem written_reading (path length : String) :
    (Log.Entry.info "Read proposition file" [("path", path), ("length", length)]).written =
    "[INFO] Read proposition file\n" ++ s!"  path: {path}\n" ++ s!"  length: {length}\n" := by
  simp only [Log.Entry.written, Log.Entry.lines, List.map_cons, List.map_nil, Log.Entry.rowLine,
    String.join_cons, String.join_nil, Log.Entry.toString_self, String.append_empty]
  simp [String.append_assoc]

theorem writeAll_entriesFor {level : Log.Level} (h : level.admits .verbose = true)
    (origin : Origin) (text : Text) :
    Log.writeAll level (Input.entriesFor origin text) = readingText origin text := by
  have hwrite : ∀ message fields,
      Log.write level (.info message fields) = (Log.Entry.info message fields).written :=
    fun _ _ => if_pos h
  rcases origin with _ | path | _
  · rfl
  · rw [Input.entriesFor, Log.writeAll, List.map_singleton, hwrite, String.join_cons,
      String.join_nil, String.append_empty]
    exact written_reading _ _
  · rfl

theorem writeAll_eq_empty {level : Log.Level} (h : level.admits .verbose = false)
    (es : List Log.Entry) : Log.writeAll level es = "" := by
  refine Log.writeAll_of_not_admits fun e _ => ?_
  cases e <;> cases level <;> first | rfl | cases h

namespace Style

variable {s : Style}

theorem level_of_eq_three (h : s.debug = 3) : s.level = .debug := by
  rw [level, h]
  rfl

theorem level_admits_verbose :
    s.level.admits .verbose = true ↔ s.output = .verbose ∨ 1 ≤ s.debug.val := by
  obtain ⟨format, output, debug, stats⟩ := s
  cases output <;> revert debug <;> simp only [level] <;> decide

theorem level_of_ne_three (h : s.debug ≠ 3) (hreports : s.output = .verbose ∨ 1 ≤ s.debug.val) :
    s.level = .verbose := by
  obtain ⟨format, output, debug, stats⟩ := s
  revert h hreports
  cases output <;> revert debug <;> simp only [level] <;> decide

theorem showsLog_of_reports (h : s.output = .verbose ∨ 1 ≤ s.debug.val) : s.showsLog = true := by
  obtain hverbose | hdebug := h
  · simp [showsLog, showsTree, hverbose]
  · simp only [showsLog, Bool.or_eq_true, decide_eq_true_eq]
    exact .inr hdebug

/-- What is printed of the log on the way: the report on the file, and of the parse its trace or
what it tells of a formula. -/
theorem logged_eq (s : Style) (origin : Origin) (text : Text) (p : Parse) :
    s.logged (Input.entriesFor origin text ++ p.events.map Event.entry) =
      if s.debug = 3 then readingText origin text ++ p.log .debug
      else if s.output = .verbose ∨ 1 ≤ s.debug.val then readingText origin text ++ p.log .verbose
      else "" := by
  unfold logged
  by_cases hreports : s.output = .verbose ∨ 1 ≤ s.debug.val
  · rw [if_pos (showsLog_of_reports hreports), Log.writeAll_append,
      writeAll_entriesFor (level_admits_verbose.2 hreports), if_pos hreports]
    by_cases h3 : s.debug = 3
    · rw [if_pos h3, level_of_eq_three h3, Parse.log]
    · rw [if_neg h3, level_of_ne_three h3 hreports, Parse.log]
  · have h3 : s.debug ≠ 3 := fun h => hreports (.inr (by rw [h]; decide))
    have hadmits := mt level_admits_verbose.1 hreports
    rw [writeAll_eq_empty (Bool.not_eq_true _ ▸ hadmits), ite_self, if_neg h3, if_neg hreports]

/-- The texts of a formula can be had, and the statistics are among them where the log takes them,
and else where they are asked for and the tree is printed. -/
theorem formulaText_eq (s : Style) (p : Formula) :
    s.formulaText p = .ok (s.shown (printed s.format p) ++
      if s.output = .verbose ∨ 1 ≤ s.debug.val then statisticsOf p
      else if s.stats then s.shown (statisticsOf p) else "") := by
  have hstatistics : s.statisticsText p = .ok (
      if s.output = .verbose ∨ 1 ≤ s.debug.val then statisticsOf p
      else if s.stats then s.shown (statisticsOf p) else "") := by
    unfold statisticsText logged
    rw [statistics_eq]
    by_cases hreports : s.output = .verbose ∨ 1 ≤ s.debug.val
    · have hadmits := level_admits_verbose.2 hreports
      have hwrite : Log.writeAll s.level [.statistics (rowsFor p)] = statisticsOf p := by
        rw [Log.writeAll, List.map_singleton, Log.write, String.join_cons, String.join_nil,
          String.append_empty, ← written_rowsFor]
        exact if_pos hadmits
      rw [if_pos hadmits, if_pos hreports, ← hwrite]
      exact congrArg Except.ok (if_pos (showsLog_of_reports hreports))
    · rw [if_neg (mt level_admits_verbose.1 hreports), if_neg hreports, ← written_rowsFor,
        ← statisticsBlock_eq_written]
      split <;> rfl
  rw [formulaText, Format.render_eq, hstatistics]
  rfl

end Style

/-! ## Runs on a text -/

section Runs

variable {find : Path → Found} {arguments : List Text} {o : Options} {debug : Fin 4}
  {style : Style} {maxDepth : Option (Given Int)} {text : Text}

theorem run_eq_runOn (harguments : readArguments arguments = .ok o)
    (hdebug : o.debug = .proper debug) (htext : HasText find o.origin text) :
    run find arguments = runOn ⟨o.format, o.output, debug, o.stats⟩ o.maxDepth
      ⟨text, Input.entriesFor o.origin text⟩ := by
  rw [run, harguments]
  show runWith find o = _
  rw [runWith, htext.ofOrigin_eq, Options.style?, hdebug]

theorem runOn_of_formula (input : Input) {p : Formula}
    (h : (parse (some (limitFor maxDepth)) input.text).outcome = .ok p) :
    runOn style maxDepth input =
      ⟨.success, style.logged (input.entries ++
        (parse (some (limitFor maxDepth)) input.text).events.map Event.entry) ++
        (style.shown (printed style.format p) ++
          if style.output = .verbose ∨ 1 ≤ style.debug.val then statisticsOf p
          else if style.stats then style.shown (statisticsOf p) else ""), ""⟩ := by
  simp only [runOn, h, Style.formulaText_eq]

end Runs

/-! ## Pieces -/

/-- The pieces that standard output is put together from. -/
inductive Piece where
  | reading
  | trace
  | parsed
  | tree
  | statistics
  deriving DecidableEq

/-- The text of a piece in a run with some options on a text whose formula is `p`. -/
def Piece.text (o : Options) (text : Text) (p : Formula) : Piece → String
  | .reading => readingText o.origin text
  | .trace => (parse (some (limitFor o.maxDepth)) text).log .debug
  | .parsed => parsedLine text p
  | .tree => printed o.format p
  | .statistics => statisticsOf p

/-- The pieces that are printed of a formula, in their order. -/
def arrangement (output : Output) (debug : Fin 4) (stats : Bool) : List Piece :=
  match output, debug with
  | .silent, 0 => []
  | .normal, 0 => if stats then [.tree, .statistics] else [.tree]
  | .silent, 3 => [.reading, .trace, .statistics]
  | .silent, _ => [.reading, .parsed, .statistics]
  | _, 3 => [.reading, .trace, .tree, .statistics]
  | _, _ => [.reading, .parsed, .tree, .statistics]

theorem join_arrangement (output : Output) (debug : Fin 4) (stats : Bool)
    (piece : Piece → String) :
    String.join ((arrangement output debug stats).map piece) =
      (if debug = 3 then piece .reading ++ piece .trace
        else if output = .verbose ∨ 1 ≤ debug.val then piece .reading ++ piece .parsed else "") ++
      ((if output ≠ .silent then piece .tree else "") ++
        if output = .verbose ∨ 1 ≤ debug.val then piece .statistics
        else if stats then (if output ≠ .silent then piece .statistics else "") else "") := by
  obtain rfl | rfl | rfl | rfl : debug = 0 ∨ debug = 1 ∨ debug = 2 ∨ debug = 3 := by
    revert debug
    decide
  all_goals cases output <;> cases stats <;> simp [arrangement, String.append_assoc]

/-- What a run prints, where the options give a debug level and the source has a text. -/
structure PrintsPieces (find : Path → Found) (arguments : List Text) (o : Options) (debug : Fin 4)
    (text : Text) : Prop where
  /-- Of a formula, the pieces that are arranged by the options are printed. -/
  formula : ∀ p, (parse (some (limitFor o.maxDepth)) text).outcome = .ok p →
    (run find arguments).output =
      String.join ((arrangement o.output debug o.stats).map (Piece.text o text p))
  /-- The tree is the formula in the format of the options. -/
  tree : ∀ p, o.format.render p = .ok (Piece.text o text p .tree)
  /-- The trace ends with what is said of the formula. -/
  trace : ∀ p, (parse (some (limitFor o.maxDepth)) text).outcome = .ok p →
    ∃ front, Piece.text o text p .trace = front ++ Piece.text o text p .parsed
  /-- The statistics are the same in the log and behind the tree. -/
  statistics : ∀ p, ∃ rows, Command.statistics p = .ok rows ∧
    (Log.Entry.statistics rows).written = Piece.text o text p .statistics ∧
    statisticsBlock rows = Piece.text o text p .statistics
  /-- The statistics are printed once at most. -/
  once : (arrangement o.output debug o.stats).count .statistics ≤ 1
  /-- Where there is no formula, the report on the file is printed if the log takes reports, and
  the trace up to the failure at the highest debug level. None of its events tells of a formula. -/
  noFormula : ∀ failure, (parse (some (limitFor o.maxDepth)) text).outcome = .error failure →
    (run find arguments).output =
      (if o.output = .verbose ∨ 1 ≤ debug.val then readingText o.origin text else "") ++
        (if debug = 3 then (parse (some (limitFor o.maxDepth)) text).log .debug else "") ∧
    ∀ e ∈ (parse (some (limitFor o.maxDepth)) text).events, e.parses = false

/-- A run on the text of a source prints the pieces that its options arrange. -/
theorem printsPieces {find : Path → Found} {arguments : List Text} {o : Options} {debug : Fin 4}
    {text : Text} (harguments : readArguments arguments = .ok o)
    (hdebug : o.debug = .proper debug) (htext : HasText find o.origin text) :
    PrintsPieces find arguments o debug text := by
  have hrun := run_eq_runOn harguments hdebug htext
  have honce : ∀ output debug stats,
      (arrangement output debug stats).count .statistics ≤ 1 := by
    intro output debug stats
    cases output <;> cases stats <;> revert debug <;> decide
  let input : Input := ⟨text, Input.entriesFor o.origin text⟩
  let p := parse (some (limitFor o.maxDepth)) text
  exact {
    formula := fun formula h => by
      rw [hrun, runOn_of_formula input h, Style.logged_eq _ o.origin text p,
        log_verbose_of_formula h, join_arrangement]
      simp only [Style.shown, Style.showsTree, decide_eq_true_eq]
      rfl
    tree := o.format.render_eq
    trace := fun formula => exists_log_debug_of_formula
    statistics := fun formula => ⟨rowsFor formula, statistics_eq formula, written_rowsFor formula,
      (statisticsBlock_eq_written _).trans (written_rowsFor formula)⟩
    once := honce _ _ _
    noFormula := fun failure h => by
      refine ⟨?_, events_of_failure h⟩
      rw [hrun, runOn_of_failure input h, Style.logged_eq _ o.origin text p,
        log_verbose_of_failure h]
      by_cases h3 : debug = 3
      · subst h3
        rw [if_pos rfl, if_pos rfl, if_pos (.inr (by decide))]
      · simp only [h3, if_false, String.append_empty] }

/-- Without the tree, the trace and the statistics of a formula in a file are still there. -/
theorem output_of_silentTrace :
    (run (fun _ => .file [0x61]) (["-f", "p", "-osilent", "-d3"].map String.toList)).output =
      "[INFO] Read proposition file\n  path: p\n  length: 1\n" ++
      "[TOKEN] ID 'a' @0\n[TOKEN] <end> @1\nPARSED: 'a' (2 nodes)\n" ++
      "=== Statistics ===\n  Node Count: 2\n  Depth: 1\n  Identifiers: a\n" := by
  have harguments : readArguments (["-f", "p", "-osilent", "-d3"].map String.toList) =
      .ok ⟨.file (.proper ['p']), .tree, .silent, .proper 3, none, false⟩ := rfl
  have htext : HasText (fun _ => .file [0x61]) (.file (.proper ['p'])) ['a'] := .file rfl rfl rfl
  have hparse : (parse (some (limitFor none)) ['a']).outcome =
      .ok (.bare (.identifier Progress.someName)) := by decide +kernel
  rw [(printsPieces harguments rfl htext).formula _ hparse]
  decide +kernel

end Command

end Propositional
