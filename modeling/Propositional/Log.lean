import Propositional.Text.Quoted
import Propositional.Text.TitleCase
import Propositional.Token

/-!
# Logs

A log takes entries and keeps those that its level admits. An entry is written as one line or more,
each with its end. Main statement: nothing is written of what is not admitted
(`Log.writeAll_of_not_admits`).
-/

namespace Propositional.Log

/-! ## Levels -/

/-- The levels of a log, from nothing at all to a trace of every token. -/
inductive Level where
  | silent
  | normal
  | verbose
  | debug
  deriving DecidableEq

namespace Level

def rank : Level → Nat
  | .silent => 0
  | .normal => 1
  | .verbose => 2
  | .debug => 3

def name : Level → String
  | .silent => "SILENT"
  | .normal => "NORMAL"
  | .verbose => "VERBOSE"
  | .debug => "DEBUG"

def all : List Level := [.silent, .normal, .verbose, .debug]

def ofName? (s : String) : Option Level := all.find? fun l => l.name = s

/-- A log of the first level keeps entries of the second. -/
def admits (level other : Level) : Bool := other.rank ≤ level.rank

end Level

/-! ## Entries -/

/-- Rows of a key and a value. -/
abbrev Rows := List (String × String)

/-- The rows with a value for a key: an old row keeps its place, a new one comes last. -/
def put (rows : Rows) (key value : String) : Rows :=
  match rows with
  | [] => [(key, value)]
  | row :: rest => if row.1 = key then (key, value) :: rest else row :: put rest key value

/-- The rows of a list of keys and values, where a repeated key keeps its first place and takes its
last value. -/
def rowsOf (pairs : Rows) : Rows := pairs.foldl (fun rows p => put rows p.1 p.2) []

/-- An entry of a log. -/
inductive Entry where
  | debug (message : String) (fields : Rows)
  | info (message : String) (fields : Rows)
  | token (t : Option Token) (index : Int)
  | parsed (text : Text) (nodes : Int)
  | statistics (rows : Rows)

namespace Entry

/-- The lowest level that keeps an entry. -/
def level : Entry → Level
  | .debug _ _ => .debug
  | .info _ _ => .verbose
  | .token _ _ => .debug
  | .parsed _ _ => .verbose
  | .statistics _ => .verbose

/-- A line for a row, indented by two spaces. -/
def rowLine (row : String × String) : String := s!"  {row.1}: {row.2}"

/-- The label of a key: underscores become spaces, and the whole is put in title case. -/
def labelOf (key : String) : String :=
  String.ofList (Text.titled (key.toList.map fun c => if c = '_' then ' ' else c))

/-- A text within a line is written as it is. -/
@[simp] theorem toString_self (s : String) : toString s = s := rfl

def lines : Entry → List String
  | .debug message fields => s!"[DEBUG] {message}" :: fields.map rowLine
  | .info message fields => s!"[INFO] {message}" :: fields.map rowLine
  | .token none index => [s!"[TOKEN] <end> @{index}"]
  | .token (some t) index =>
    [s!"[TOKEN] {t.kind.name} {String.ofList t.text.quoted} @{index}"]
  | .parsed text nodes => [s!"PARSED: {String.ofList text.quoted} ({nodes} nodes)"]
  | .statistics rows => "=== Statistics ===" :: rows.map fun row => rowLine (labelOf row.1, row.2)

/-- An entry as it is written, with the ends of its lines. -/
def written (e : Entry) : String := String.join (e.lines.map (· ++ "\n"))

end Entry

/-! ## Writing -/

/-- What a log of a level writes for an entry. -/
def write (level : Level) (e : Entry) : String :=
  if level.admits e.level then e.written else ""

/-- What a log of a level writes for a sequence of entries. -/
def writeAll (level : Level) (entries : List Entry) : String :=
  String.join (entries.map (write level))

variable {level : Level}

theorem writeAll_append (es es' : List Entry) :
    writeAll level (es ++ es') = writeAll level es ++ writeAll level es' := by
  simp [writeAll]

/-- A log writes nothing of entries that its level does not admit. -/
theorem writeAll_of_not_admits {es : List Entry} (h : ∀ e ∈ es, level.admits e.level = false) :
    writeAll level es = "" := by
  induction es with
  | nil => rfl
  | cons e es ih =>
    rw [writeAll, List.map_cons, String.join_cons, ← writeAll, write, h e List.mem_cons_self,
      ih fun e' he' => h e' (List.mem_cons_of_mem _ he')]
    rfl

theorem writeAll_silent (entries : List Entry) : writeAll .silent entries = "" :=
  writeAll_of_not_admits fun e _ => by cases e <;> rfl

end Propositional.Log
