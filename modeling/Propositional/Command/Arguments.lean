import Propositional.Command.Options
import Propositional.Text.Numeral

/-!
# Arguments of the command

How a list of arguments is read as options.

1. `Argument.classify` tells options from values. An option may be shortened to a part of its
   spelling that fits no other, and may have its value attached. Short options may be joined.
2. `Draft.read` goes through the arguments from left to right. An option that takes a value takes it
   from its own argument or from the next one; what is neither an option nor a value of one is the
   expression, and what is left over is unrecognized.

Help and version end the reading as soon as they are reached. An ambiguous option is reported before
anything else, and arguments that are not recognized after everything else.
-/

namespace Propositional.Command

/-! ## Flags -/

/-- The options that take a value. -/
inductive Setting where
  | file
  | format
  | output
  | debug
  | maxDepth
  deriving DecidableEq

/-- The options that take no value. -/
inductive Switch where
  | help
  | stats
  | version
  deriving DecidableEq

/-- The options of the command. -/
inductive Flag where
  | switch (s : Switch)
  | setting (s : Setting)
  deriving DecidableEq

namespace Flag

/-- The options in the order in which they are listed. -/
def all : List Flag :=
  [.switch .help, .setting .file, .setting .format, .setting .output, .setting .debug,
    .setting .maxDepth, .switch .stats, .switch .version]

def spellings : Flag → List String
  | .switch .help => ["-h", "--help"]
  | .setting .file => ["-f", "--file"]
  | .setting .format => ["--format"]
  | .setting .output => ["-o", "--output"]
  | .setting .debug => ["-d", "--debug"]
  | .setting .maxDepth => ["--max-depth"]
  | .switch .stats => ["--stats"]
  | .switch .version => ["--version"]

/-- An option as it is named in reports. -/
def title (f : Flag) : String := "/".intercalate f.spellings

/-- All spellings with the options they stand for, in the order in which they are listed. -/
def allSpellings : List (Text × Flag) :=
  all.flatMap fun f => f.spellings.map fun s => (s.toList, f)

def ofSpelling? (text : Text) : Option Flag :=
  (allSpellings.find? fun s => s.1 = text).map Prod.snd

end Flag

/-- A setting as it is named in reports. -/
def Setting.title (s : Setting) : String := (Flag.setting s).title

/-- A switch as it is named in reports. -/
def Switch.title (s : Switch) : String := (Flag.switch s).title

/-! ## Reports -/

/-- Why arguments cannot be read. -/
inductive UsageError where
  | ambiguous (argument : Text) (spellings : List Text)
  | valueMissing (setting : Setting)
  | valueIgnored (switch : Switch) (value : Text)
  | noInteger (setting : Setting) (value : Text)
  | noChoice (setting : Setting) (value : Text) (choices : List Text)
  | fileAndExpression
  | expressionAndFile
  | originMissing
  | unrecognized (arguments : List Text)

/-- The name of the positional argument in reports. -/
def expressionTitle : String := "expression"

def UsageError.message : UsageError → String
  | .ambiguous argument spellings =>
    let matching := ", ".intercalate (spellings.map String.ofList)
    s!"ambiguous option: {String.ofList argument} could match {matching}"
  | .valueMissing setting => s!"argument {setting.title}: expected one argument"
  | .valueIgnored switch value =>
    s!"argument {switch.title}: ignored explicit argument {String.ofList value.quoted}"
  | .noInteger setting value =>
    s!"argument {setting.title}: invalid int value: {String.ofList value.quoted}"
  | .noChoice setting value choices =>
    let listed := ", ".intercalate (choices.map String.ofList)
    s!"argument {setting.title}: invalid choice: {String.ofList value} (choose from {listed})"
  | .fileAndExpression =>
    s!"argument {Setting.file.title}: not allowed with argument {expressionTitle}"
  | .expressionAndFile =>
    s!"argument {expressionTitle}: not allowed with argument {Setting.file.title}"
  | .originMissing =>
    s!"one of the arguments {expressionTitle} {Setting.file.title} is required"
  | .unrecognized arguments =>
    "unrecognized arguments: " ++ " ".intercalate (arguments.map String.ofList)

/-- What ends the reading of arguments before its end. -/
inductive Stop where
  | help
  | version
  | error (e : UsageError)

/-! ## Kinds of arguments -/

/-- A value attached to an option: assigned to a long spelling, or joined to a short one, directly
or after an equals sign. -/
inductive Attachment where
  | assigned (value : Text)
  | joined (value : Text)

def Attachment.text : Attachment → Text
  | .assigned value => value
  | .joined value => value

/-- An argument by its kind. The terminator makes values of all arguments after it. -/
inductive Argument where
  | value (text : Text)
  | option (flag : Flag) (attached : Option Attachment)
  | unknown (text : Text)
  | terminator

namespace Argument

/-- The part of a text before its first equals sign, and the part after it. -/
def splitAssignment (text : Text) : Text × Option Text :=
  match text.dropWhile (· ≠ '=') with
  | [] => (text, none)
  | _ :: after => (text.takeWhile (· ≠ '='), some after)

/-- A text without one line feed at its end. -/
def withoutFinalBreak (text : Text) : Text :=
  if text.getLast? = some '\n' then text.dropLast else text

/-- A text looks like a negative number: digits after a minus sign, with at most one point, which is
followed by a digit. A line feed at the end is overlooked. -/
def isNegativeNumber (text : Text) : Bool :=
  match withoutFinalBreak text with
  | '-' :: rest =>
    let fraction := rest.dropWhile Text.isDigit
    match rest, fraction with
    | [], _ => false
    | _, [] => true
    | _, '.' :: digits => !digits.isEmpty && digits.all Text.isDigit
    | _, _ => false
  | _ => false

/-- The options that a shortened long spelling may stand for. -/
def candidates (start : Text) : List (Text × Flag) :=
  Flag.allSpellings.filter fun s => start.isPrefixOf s.1

/-- An argument that starts with a dash and is no option. -/
def classifyRest (text : Text) : Argument :=
  if isNegativeNumber text ∨ text.contains ' ' then .value text else .unknown text

/-- The kind of an argument that stands before any terminator. -/
def classify (text : Text) : Except UsageError Argument :=
  match text with
  | [] => .ok (.value text)
  | [_] => .ok (.value text)
  | first :: second :: rest =>
    if first ≠ '-' then .ok (.value text)
    else
      let (start, assigned) := splitAssignment text
      let attach := if second = '-' then Attachment.assigned else Attachment.joined
      match Flag.ofSpelling? text, Flag.ofSpelling? start with
      | some flag, _ => .ok (.option flag none)
      | none, some flag => .ok (.option flag (assigned.map attach))
      | none, none =>
        if second = '-' then
          match candidates start with
          | [] => .ok (classifyRest text)
          | [(_, flag)] => .ok (.option flag (assigned.map attach))
          | many => .error (.ambiguous text (many.map Prod.fst))
        else
          match Flag.ofSpelling? [first, second] with
          | some flag => .ok (.option flag (some (.joined rest)))
          | none => .ok (classifyRest text)

def terminatorText : Text := ['-', '-']

def classifyAll : List Text → Except UsageError (List Argument)
  | [] => .ok []
  | text :: rest =>
    if text = terminatorText then .ok (.terminator :: rest.map .value)
    else do return (← classify text) :: (← classifyAll rest)

/-- A list of arguments starts with a value. -/
def startsWithValue : List Argument → Bool
  | .value _ :: _ => true
  | _ => false

end Argument

/-! ## Reading -/

/-- What has been read so far: the options, and the arguments that are not recognized. -/
structure Draft where
  origin : Option Origin
  format : Format
  output : Output
  debug : Given (Fin 4)
  maxDepth : Option (Given Int)
  stats : Bool
  unrecognized : List Text

namespace Draft

def empty : Draft := ⟨none, .tree, .normal, .proper 0, none, false, []⟩

/-- The expression is still to come. -/
def awaitsExpression (d : Draft) : Bool :=
  match d.origin with
  | some (.expression _) => false
  | _ => true

/-- Adds an argument that is not recognized. -/
def leaveOver (d : Draft) (text : Text) : Draft :=
  { d with unrecognized := d.unrecognized ++ [text] }

def takeExpression (d : Draft) (text : Text) : Except UsageError Draft :=
  match d.origin with
  | some (.file _) => .error .expressionAndFile
  | _ => .ok { d with origin := some (.expression text) }

def takeFile (d : Draft) (path : Given Text) : Except UsageError Draft :=
  match d.origin with
  | some (.expression _) => .error .fileAndExpression
  | _ => .ok { d with origin := some (.file path) }

def choose {β : Type} (setting : Setting) (word : β → String) (all : List β) (value : Text) :
    Except UsageError β :=
  match all.find? fun b => (word b).toList = value with
  | some b => .ok b
  | none =>
    .error (.noChoice setting value.quoted (all.map fun b => Text.quoted (word b).toList))

/-- The integer that a value stands for. -/
def integer (setting : Setting) (value : Text) : Except UsageError Int :=
  match value.integer? with
  | some i => .ok i
  | none => .error (.noInteger setting value)

def debugLevels : List (Fin 4) := [0, 1, 2, 3]

/-- The debug level that a value stands for. -/
def debugLevel (value : Text) : Except UsageError (Fin 4) := do
  let i ← integer .debug value
  match debugLevels.find? fun l => (l.val : Int) = i with
  | some l => return l
  | none =>
    throw (.noChoice .debug (toString i).toList
      (debugLevels.map fun l => (toString l.val).toList))

/-- Takes a proper value of a setting. -/
def takeProper (d : Draft) (setting : Setting) (value : Text) : Except UsageError Draft :=
  match setting with
  | .file => d.takeFile (.proper value)
  | .format => do return { d with format := ← choose .format Format.word Format.all value }
  | .output => do return { d with output := ← choose .output Output.word Output.all value }
  | .debug => do return { d with debug := .proper (← debugLevel value) }
  | .maxDepth => do return { d with maxDepth := some (.proper (← integer .maxDepth value)) }

/-- Takes the void value of a setting. A void choice is none of the words, so it has the effect of
the one that nothing is made to depend on. -/
def takeVoid (d : Draft) (setting : Setting) : Except UsageError Draft :=
  match setting with
  | .file => d.takeFile .void
  | .format => .ok { d with format := .tree }
  | .output => .ok { d with output := .normal }
  | .debug => .ok { d with debug := .void }
  | .maxDepth => .ok { d with maxDepth := some .void }

/-- Takes the value of a setting. A terminator that is attached to a setting is a void value. -/
def takeSetting (d : Draft) (setting : Setting) (value : Text) : Except UsageError Draft :=
  if value = Argument.terminatorText then d.takeVoid setting else d.takeProper setting value

/-- What comes of short options joined to the one for help. They are checked for their values, which
the next argument may hold, and then help is given. -/
def stopForHelp (nextIsValue : Bool) : Text → Stop
  | [] => .help
  | c :: rest =>
    match Flag.ofSpelling? ['-', c] with
    | none => .error (.valueIgnored .help (c :: rest))
    | some (.setting s) => if rest.isEmpty && !nextIsValue then .error (.valueMissing s) else .help
    | some (.switch _) => stopForHelp nextIsValue rest

/-- Takes a switch that stands alone in its argument. -/
def takeSwitch (d : Draft) : Switch → Except Stop Draft
  | .help => .error .help
  | .version => .error .version
  | .stats => .ok { d with stats := true }

/-- Goes through arguments from left to right. A terminator is dropped if it stands before or right
after the expression. -/
def read (d : Draft) : List Argument → Except Stop Draft
  | [] => .ok d
  | .unknown text :: rest => (d.leaveOver text).read rest
  | .terminator :: rest =>
    if d.awaitsExpression then d.read rest else (d.leaveOver Argument.terminatorText).read rest
  | .value text :: .terminator :: rest =>
    if d.awaitsExpression then do (← (d.takeExpression text).mapError .error).read rest
    else ((d.leaveOver text).leaveOver Argument.terminatorText).read rest
  | .value text :: rest =>
    if d.awaitsExpression then do (← (d.takeExpression text).mapError .error).read rest
    else (d.leaveOver text).read rest
  | .option (.setting s) (some attached) :: rest => do
    (← (d.takeSetting s attached.text).mapError .error).read rest
  | .option (.setting s) none :: .value text :: rest => do
    (← (d.takeSetting s text).mapError .error).read rest
  | .option (.setting s) none :: _ => .error (.error (.valueMissing s))
  | .option (.switch s) none :: rest => do (← d.takeSwitch s).read rest
  | .option (.switch s) (some (.assigned value)) :: _ => .error (.error (.valueIgnored s value))
  | .option (.switch s) (some (.joined [])) :: _ => .error (.error (.valueIgnored s []))
  | .option (.switch _) (some (.joined (c :: more))) :: rest =>
    .error (stopForHelp (Argument.startsWithValue rest) (c :: more))

def options (d : Draft) : Except UsageError Options :=
  match d.origin, d.unrecognized with
  | none, _ => .error .originMissing
  | some origin, [] => .ok ⟨origin, d.format, d.output, d.debug, d.maxDepth, d.stats⟩
  | some _, left => .error (.unrecognized left)

end Draft

def readArguments (arguments : List Text) : Except Stop Options := do
  let kinds ← (Argument.classifyAll arguments).mapError .error
  (← Draft.empty.read kinds).options.mapError .error

end Propositional.Command
