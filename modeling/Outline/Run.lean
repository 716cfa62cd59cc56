import Outline.Arguments
import Outline.Log.Sink
import Outline.Settings.File
import Outline.Source
import Outline.Table

/-!
# A run of the program

A run reads its settings, opens the log, shows a document with groups expanded, begins an edit,
puts another document in the place of the first, and prints the rows. These are steps on a state, in
which the files are, and the log, and what was printed so far (`Run.State`). `Run.report` says what
a run printed when it ended and how it ended; the files and the environment are values, and so the
run is a function.
-/

namespace Outline.Run

/-- What a run finds. -/
structure Surroundings where
  /-- All files. -/
  files : Files
  /-- The variables and the directories. -/
  environment : Environment
  /-- The time for the log. -/
  time : String

/-- What a run leaves. -/
structure Report where
  /-- How it ended; zero if all went well. -/
  code : Nat
  /-- What it printed. -/
  output : String
  /-- What it complained of. -/
  complaints : String
  /-- All files. -/
  files : Files
  /-- The names that lead to the log file, if it was written. -/
  log : Option (List String)

/-! ### Ends -/

/-- An error that the reader is told. -/
inductive Failure where
  /-- The settings file cannot be used. -/
  | settings (e : Settings.LoadError)
  /-- A document cannot be used. -/
  | document (e : Source.LoadError)
  /-- The cell cannot be edited. -/
  | edit (e : EditRefusal)

/-- The error with all its parts. -/
def Failure.describe : Failure → String
  | settings e => e.describe
  | document e => e.describe
  | edit e => e.describe

/-- The code of a run that ended well. -/
def successCode : Nat := 0

/-- The code of a run that was stopped by an error. -/
def failureCode : Nat := 1

/-- The code of a run with a wrong command line. -/
def refusalCode : Nat := 2

/-- The code of a run that could not go on. -/
def crashCode : Nat := 101

/-- What stops a run. -/
inductive Stop where
  /-- An error that the reader is told. -/
  | failed (e : Failure)
  /-- The log cannot be written, or the rows cannot be printed. -/
  | crashed

/-- The code of a run that was stopped. -/
def Stop.code : Stop → Nat
  | failed _ => failureCode
  | crashed => crashCode

/-- The words about what stopped a run. -/
def Stop.words : Stop → String
  | failed e => "Error: " ++ e.describe ++ "\n"
  | crashed => ""

/-! ### The table -/

/-- Expand the first collapsed group of each name in turn. What was done is recorded, and so is
that there is no such group. -/
def expandNames (t : Table) : List String → Table × List Log.Record
  | [] => (t, [])
  | name :: names =>
    let o := t.expandNamed name
    let missing := if o.result then [] else [Log.Record.noSuchGroup name]
    let (t, rs) := expandNames o.state names
    (t, Log.Record.ofEvents o.events ++ missing ++ rs)

/-- The table over a forest with every group expanded, if that is wanted. -/
def firstTable (s : Settings) (nodes : List Node) : Table × List Log.Record :=
  let t := Table.ofNodes nodes
  if s.expandAll then
    let o := t.expandAll
    (o.state, Log.Record.ofEvents o.events)
  else (t, [])

/-- The table over a forest with all groups expanded that are to be. -/
def expandedTable (s : Settings) (names : List String) (nodes : List Node) :
    Table × List Log.Record :=
  let (t, before) := firstTable s nodes
  let (t, rs) := expandNames t names
  (t, before ++ rs)

/-- Begin to edit the value of a row, if one is given. -/
def beginEdit (t : Table) : Option Nat → Except EditRefusal Table
  | none => .ok t
  | some row =>
    let o := t.startEditing row Column.value.index
    o.result.map fun _ => o.state

/-- The last line, which tells where the edit stands. -/
def editLine : Editing → String
  | some x =>
    "editing: row " ++ toString x.row ++ ", column " ++ toString x.column.index ++ "\n"
  | none => "editing: cancelled\n"

/-! ### The settings -/

/-- The settings that options ask for. -/
def optionLayer (o : Options) : Layer :=
  { indent := o.indent
    values := if o.noValues then some false else none
    expandAll := if o.expandAll then some true else none }

/-- The settings of a run. -/
def settings (f : Files) (e : Environment) (o : Options) : Except Settings.LoadError Settings :=
  (Settings.load f e o.config).map fun file =>
    Settings.resolve e (file.getD .empty) (optionLayer o)

/-! ### The steps -/

/-- What the steps of a run work on. -/
structure State where
  /-- All files. -/
  files : Files
  /-- Where records go, once the log is open. -/
  log : Option Log.Sink
  /-- What was printed. -/
  output : String
  /-- What was complained of. -/
  complaints : String

namespace State

/-- Nothing has happened. -/
def start (f : Files) : State := ⟨f, none, "", ""⟩

/-- Records are written, if the log is open. -/
def record (rs : List Log.Record) (x : State) : State :=
  match x.log with
  | some k => { x with files := k.write rs x.files }
  | none => x

/-- Text is printed. -/
def print (text : String) (x : State) : State := { x with output := x.output ++ text }

/-- The log was given up. -/
def giveUp (r : Log.Refusal) (x : State) : State :=
  { x with complaints := x.complaints ++ "treetable: logging disabled: " ++ r.message ++ "\n" }

end State

/-- Steps work on the state, also if they stop. -/
abbrev Session (α : Type) := ExceptT Stop (StateM State) α

/-- Record what happened. -/
def record (rs : List Log.Record) : Session Unit := modify (State.record rs)

/-- Print text. -/
def print (text : String) : Session Unit := modify (State.print text)

/-- Read the settings. -/
def settle (e : Environment) (o : Options) : Session Settings := do
  match settings (← get).files e o with
  | .error x => throw (.failed (.settings x))
  | .ok s => return s

/-- Open the log. -/
def openLog (e : Environment) (time : String) (p : Path) : Session Unit := do
  let x ← get
  match Log.openFile x.files e time p with
  | (.opened k, f) => set { x with files := f, log := some k }
  | (.disabled r, f) => set (State.giveUp r { x with files := f })
  | (.unusable, f) => do
    set { x with files := f }
    throw .crashed

/-- Read a document. -/
def load (p : Path) : Session (List Node) := do
  match Source.load (← get).files p with
  | .error e => throw (.failed (.document e))
  | .ok nodes =>
    record [.loaded p nodes]
    return nodes

/-- Begin to edit the value of a row, if one is given. -/
def edit (t : Table) (row : Option Nat) : Session Table :=
  match beginEdit t row with
  | .error e => throw (.failed (.edit e))
  | .ok t => return t

/-- Put another document in the place of the first, if one is given. -/
def replace (t : Table) : Option Path → Session Table
  | none => return t
  | some p => do
    let o := t.replace (← load p)
    record (Log.Record.ofEvents o.events ++ [.replaced o.result o.state.rowCount])
    return o.state

/-- Everything before the first text is printed: the settings and the table at the end. -/
def prepare (e : Environment) (time : String) (a : Arguments) : Session (Settings × Table) := do
  let s ← settle e a.options
  openLog e time s.logFile
  record [.settled s]
  let (t, rs) := expandedTable s a.options.expand (← load a.file)
  record rs
  let t ← edit t a.options.edit
  return (s, ← replace t a.options.replace)

/-- Print the rows. -/
def printRows (s : Settings) (t : Table) : Session Unit :=
  match s.layout.render t.view with
  | none => throw .crashed
  | some text => print text

/-- Print where the edit stands, if one was begun. -/
def printEdit (t : Table) : Option Nat → Session Unit
  | none => return ()
  | some _ => print (editLine t.editing)

/-- A run whose command line is understood. -/
def session (e : Environment) (time : String) (a : Arguments) : Session Unit := do
  let (s, t) ← prepare e time a
  printRows s t
  printEdit t a.options.edit

/-! ### The run -/

/-- How the program is used. -/
def helpText : String :=
  String.join (List.map (· ++ "\n")
    ["Flatten a JSON tree document into table rows",
      "",
      "Usage: treetable [OPTIONS] <FILE>",
      "",
      "Arguments:",
      "  <FILE>  Path to JSON tree document",
      "",
      "Options:",
      "  -r, --replace <REPLACE>  Replace the tree with this document after expanding " ++
        "(expansion and edit follow by value)",
      "  -e, --expand <NAME>      Expand the first visible group with this name " ++
        "(repeatable, applied in order)",
      "      --expand-all         Expand every group",
      "      --edit <ROW>         Start editing the value cell of this row before the replacement",
      "      --indent <INDENT>    Spaces per nesting level",
      "      --no-values          Hide the value column",
      "      --config <CONFIG>    Path to configuration file",
      "  -h, --help               Print help",
      "  -V, --version            Print version"])

/-- The name of the program and its version. -/
def versionText : String := "treetable 0.1.0\n"

/-- What is said about a wrong command line. -/
def refusalText : String := "error: invalid command line\n\nUsage: treetable [OPTIONS] <FILE>\n"

/-- The report of a session. -/
def conclude : Except Stop Unit × State → Report
  | (.ok (), x) => ⟨successCode, x.output, x.complaints, x.files, x.log.map Log.Sink.place⟩
  | (.error e, x) =>
    ⟨e.code, x.output, x.complaints ++ e.words, x.files, x.log.map Log.Sink.place⟩

/-- What a run with these words prints and leaves. -/
def report (w : Surroundings) (words : List String) : Report :=
  match Arguments.read words with
  | .refused => ⟨refusalCode, "", refusalText, w.files, none⟩
  | .help => ⟨successCode, helpText, "", w.files, none⟩
  | .version => ⟨successCode, versionText, "", w.files, none⟩
  | .run a => conclude ((session w.environment w.time a).run.run (.start w.files))

end Outline.Run
