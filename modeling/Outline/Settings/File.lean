import Outline.Files
import Outline.Settings
import Outline.Toml.Reader

/-!
# Settings files

A settings file is a TOML text whose entries are settings. An entry that is no setting is refused,
and so is a value of another type. The refusal shows the line and marks the value, or the key if
that is wrong.

At most one file is looked at: the one that is named on the command line, else the one named by a
variable, else the default one. If it does not exist, no setting is given.
-/

namespace Outline.Settings

open Toml (Item Key Span Scalar)

/-! ### What is wrong with an entry -/

/-- The settings that a file can give. -/
inductive Name where
  /-- Spaces for each level of depth. -/
  | indent
  /-- Whether values are printed. -/
  | values
  /-- Whether every group is expanded. -/
  | expandAll
  /-- Where the log is written. -/
  | logFile
deriving DecidableEq

namespace Name

/-- All settings. -/
def all : List Name := [indent, values, expandAll, logFile]

/-- The key of the setting. -/
def key : Name → String
  | indent => "indent_width"
  | values => "show_values"
  | expandAll => "expand_all"
  | logFile => "log_file_path"

/-- The wording of what the setting wants. -/
def wanted : Name → String
  | indent => "usize"
  | values => "a boolean"
  | expandAll => "a boolean"
  | logFile => "path string"

/-- The setting of a key. -/
def ofKey? (key : String) : Option Name := all.find? fun n => n.key == key

end Name

/-- The wording of what stands under a key. -/
def found : Item → String
  | .scalar (.integer n) _ => "integer `" ++ toString n ++ "`"
  | .scalar (.float x) _ => "floating point `" ++ x.text ++ "`"
  | .scalar (.boolean b) _ => "boolean `" ++ toString b ++ "`"
  | .scalar (.string s) _ => "string " ++ Text.quote s
  | .scalar .datetime _ => "map"
  | .array _ _ => "sequence"
  | .tables _ _ => "sequence"
  | .inlineTable _ _ => "map"
  | .table _ _ _ => "map"

/-- Why an entry gives no setting. -/
inductive EntryError where
  /-- There is no such setting. -/
  | unknown (key : String)
  /-- A number below zero. -/
  | negative (n : Int) (name : Name)
  /-- A value of another type. -/
  | mismatch (item : String) (name : Name)
deriving DecidableEq

/-- The wording of the error. -/
def EntryError.message : EntryError → String
  | unknown k =>
    "unknown field `" ++ k ++ "`, expected one of " ++
      String.intercalate ", " (Name.all.map fun n => "`" ++ n.key ++ "`")
  | negative n name => "invalid value: integer `" ++ toString n ++ "`, expected " ++ name.wanted
  | mismatch item name => "invalid type: " ++ item ++ ", expected " ++ name.wanted

/-! ### Reading entries -/

/-- The layer with one more setting. -/
def withEntry (l : Layer) (name : Name) (item : Item) : Except EntryError Layer :=
  match name, item with
  | .indent, .scalar (.integer n) _ =>
    if n < 0 then .error (.negative n name) else .ok { l with indent := some n.toNat }
  | .values, .scalar (.boolean b) _ => .ok { l with values := some b }
  | .expandAll, .scalar (.boolean b) _ => .ok { l with expandAll := some b }
  | .logFile, .scalar (.string s) _ => .ok { l with logFile := some ⟨s⟩ }
  | _, item => .error (.mismatch (found item) name)

/-- The layer that entries give, or the first error and where it shows. -/
def ofEntries (l : Layer) : Toml.Entries → Except (EntryError × Span) Layer
  | [] => .ok l
  | (key, item) :: es =>
    match Name.ofKey? key.name with
    | none => .error (.unknown key.name, key.span)
    | some name =>
      match withEntry l name item with
      | .error e => .error (e, item.span.getD key.span)
      | .ok l => ofEntries l es

/-! ### Refusals -/

/-- Why a text gives no settings. -/
inductive Refusal where
  /-- The text is not TOML. -/
  | notToml
  /-- An entry is wrong; the span shows which part of it. -/
  | entry (e : EntryError) (span : Span) (text : String)
deriving DecidableEq

/-- The lines of a text. -/
def lines : List Char → List (List Char)
  | [] => [[]]
  | c :: cs =>
    if c = '\n' then [] :: lines cs
    else
      match lines cs with
      | l :: ls => (c :: l) :: ls
      | [] => [[c]]

/-- The number of bytes of a text. -/
def byteCount (cs : List Char) : Nat := cs.foldl (fun n c => n + c.utf8Size) 0

/-- The line with its number and a mark below, and then the wording of the error. The mark covers
the bytes of the span as far as the line reaches. -/
def excerpt (text : String) (span : Span) (message : String) : String :=
  let cs := text.toList
  let before := cs.take span.start
  let row := before.count '\n'
  let column := (before.reverse.takeWhile (· != '\n')).length
  let content := ((lines cs)[row]?).getD []
  let marked := min (byteCount ((cs.drop span.start).take (span.stop - span.start)))
    (byteCount content - column)
  let number := toString (row + 1)
  let margin := Layout.spaces (number.length + 1) ++ "|"
  "TOML parse error at line " ++ number ++ ", column " ++ toString (column + 1) ++ "\n" ++
    margin ++ "\n" ++
    number ++ " | " ++ String.ofList content ++ "\n" ++
    margin ++ Layout.spaces (column + 1) ++ String.ofList (List.replicate (max marked 1) '^') ++
    "\n" ++ message ++ "\n"

/-- The refusal for the reader. -/
def Refusal.message : Refusal → String
  | notToml => "TOML parse error"
  | entry e span text => excerpt text span e.message

/-- The layer that a text gives. -/
def ofText (text : String) : Except Refusal Layer :=
  match Toml.read text with
  | none => .error .notToml
  | some es => (ofEntries .empty es).mapError fun (e, span) => .entry e span text

/-! ### Files -/

/-- Why a settings file cannot be used. -/
inductive LoadError where
  /-- The file gives no text. -/
  | unreadable (path : Path) (e : Files.ReadError)
  /-- The text gives no settings. -/
  | invalid (path : Path) (r : Refusal)
deriving DecidableEq

namespace LoadError

/-- The error for the reader. -/
def message : LoadError → String
  | unreadable p e => "Failed to read config file at " ++ p.text ++ ": " ++ e.message
  | invalid p r => "Invalid TOML in " ++ p.text ++ ": " ++ r.message

/-- The error with all its parts. -/
def describe : LoadError → String
  | unreadable p e =>
    "ReadError \x7b path: " ++ p.quote ++ ", reason: " ++ Text.quote e.message ++ " \x7d"
  | invalid p r =>
    "ParseError \x7b path: " ++ p.quote ++ ", reason: " ++ Text.quote r.message ++ " \x7d"

end LoadError

/-- The file that settings are read from, if it exists. -/
def candidate? (e : Environment) (named : Option Path) : Option Path :=
  match named with
  | some p => some p
  | none =>
    match e.get? "TREETABLE_CONFIG" with
    | some p => some ⟨p⟩
    | none => e.settingsFile?

/-- The layer of a settings file; nothing if it does not exist. -/
def loadFile (f : Files) (p : Path) : Except LoadError (Option Layer) :=
  if f.exists? p then
    match f.readText p with
    | .error e => .error (.unreadable p e)
    | .ok text =>
      match ofText text with
      | .error r => .error (.invalid p r)
      | .ok l => .ok (some l)
  else .ok none

/-- The layer of the settings file that is to be used. -/
def load (f : Files) (e : Environment) (named : Option Path) :
    Except LoadError (Option Layer) :=
  match candidate? e named with
  | some p => loadFile f p
  | none => .ok none

end Outline.Settings
