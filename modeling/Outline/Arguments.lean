import Outline.Path
import Outline.Text.Natural

/-!
# The command line

A command line names one document, and options before and after it. Words are read from left to
right, and the first one that is wrong or asks for help decides about the whole. The value of an
option is the rest of its word, or else the next word, which must not look like an option. After
two dashes every word is a document.

Only `--expand` may be given more than once.
-/

namespace Outline

/-- What options ask for. -/
structure Options where
  /-- The document that takes the place of the first. -/
  replace : Option Path := none
  /-- Names of groups to expand, in order. -/
  expand : List String := []
  /-- Whether all groups are expanded. -/
  expandAll : Bool := false
  /-- The row whose value is edited. -/
  edit : Option Nat := none
  /-- Spaces for each level of depth. -/
  indent : Option Nat := none
  /-- Whether values are left out. -/
  noValues : Bool := false
  /-- The settings file. -/
  config : Option Path := none
deriving DecidableEq

/-- A document, and what to do with it. -/
structure Arguments where
  /-- The document to show. -/
  file : Path
  /-- What the options ask for. -/
  options : Options
deriving DecidableEq

/-- What a command line means. -/
inductive Request where
  /-- Show a document. -/
  | run (a : Arguments)
  /-- Show how the program is used. -/
  | help
  /-- Show which version it is. -/
  | version
  /-- The command line is wrong. -/
  | refused
deriving DecidableEq

namespace Arguments

/-! ### Options -/

/-- The options that take a value. -/
inductive Setting where
  /-- The document that takes the place of the first. -/
  | replace
  /-- The name of a group to expand. -/
  | expand
  /-- The row to edit. -/
  | edit
  /-- Spaces for each level. -/
  | indent
  /-- The settings file. -/
  | config
deriving DecidableEq

/-- The options that take none. -/
inductive Flag where
  /-- Expand every group. -/
  | expandAll
  /-- Leave values out. -/
  | noValues
deriving DecidableEq

/-- What the name of an option stands for. -/
inductive Choice where
  /-- An option with a value. -/
  | setting (s : Setting)
  /-- An option without a value. -/
  | flag (f : Flag)
  /-- The question how the program is used. -/
  | help
  /-- The question which version it is. -/
  | version
deriving DecidableEq

namespace Choice

/-- The options by their names; names are never abbreviated. -/
def ofName? : String → Option Choice
  | "replace" => some (setting .replace)
  | "expand" => some (setting .expand)
  | "edit" => some (setting .edit)
  | "indent" => some (setting .indent)
  | "config" => some (setting .config)
  | "expand-all" => some (flag .expandAll)
  | "no-values" => some (flag .noValues)
  | "help" => some help
  | "version" => some version
  | _ => none

/-- The options by their letters. -/
def ofLetter? : Char → Option Choice
  | 'r' => some (setting .replace)
  | 'e' => some (setting .expand)
  | 'h' => some help
  | 'V' => some version
  | _ => none

end Choice

/-! ### Words -/

/-- What a single word means. -/
inductive Word where
  /-- Only documents follow. -/
  | separator
  /-- A document, or the value of the option before. -/
  | plain (text : String)
  /-- An option and the value that its word holds. -/
  | option (c : Choice) (value : Option String)
  /-- Something that looks like an option but is none. -/
  | unknown
deriving DecidableEq

/-- The option of a name, with the value that follows a sign of equality. -/
def Word.ofLong (cs : List Char) : Word :=
  match Choice.ofName? (String.ofList (cs.takeWhile (· != '='))), cs.dropWhile (· != '=') with
  | some c, [] => .option c none
  | some c, _ :: value => .option c (some (String.ofList value))
  | none, _ => .unknown

/-- The option of a letter, with the value that follows it. Nothing more is read if the letter
asks a question. -/
def Word.ofShort (letter : Char) (rest : List Char) : Word :=
  match Choice.ofLetter? letter with
  | some (.setting s) =>
    match rest with
    | [] => .option (.setting s) none
    | '=' :: value => .option (.setting s) (some (String.ofList value))
    | value => .option (.setting s) (some (String.ofList value))
  | some c => .option c none
  | none => .unknown

/-- What a word means. -/
def Word.ofText (s : String) : Word :=
  match s.toList with
  | ['-', '-'] => .separator
  | '-' :: '-' :: cs => .ofLong cs
  | '-' :: c :: cs => .ofShort c cs
  | _ => .plain s

/-! ### Reading from left to right -/

/-- The path that a word stands for; an empty word stands for none. -/
def path? (s : String) : Option Path := if s.isEmpty then none else some ⟨s⟩

/-- Fill what is still open, if there is something to fill it with. -/
def fill {α : Type} (old new : Option α) : Option (Option α) :=
  match old, new with
  | none, some a => some (some a)
  | _, _ => none

/-- Raise a flag that is not raised yet. -/
def raise (old : Bool) : Option Bool := if old then none else some true

/-- The options with one more that takes a value. -/
def withSetting (o : Options) (which : Setting) (s : String) : Option Options :=
  match which with
  | .replace => (fill o.replace (path? s)).map fun replace => { o with replace }
  | .expand => some { o with expand := o.expand ++ [s] }
  | .edit => (fill o.edit (Text.natural? s.toList)).map fun edit => { o with edit }
  | .indent => (fill o.indent (Text.natural? s.toList)).map fun indent => { o with indent }
  | .config => (fill o.config (path? s)).map fun config => { o with config }

/-- The options with one more flag. -/
def withFlag (o : Options) : Flag → Option Options
  | .expandAll => (raise o.expandAll).map fun expandAll => { o with expandAll }
  | .noValues => (raise o.noValues).map fun noValues => { o with noValues }

/-- What the words so far ask for. -/
structure Draft where
  /-- The document to show, once it is named. -/
  file : Option Path := none
  /-- What the options ask for. -/
  options : Options := {}

namespace Draft

/-- The draft with a document. -/
def withFile (d : Draft) (s : String) : Option Draft :=
  (fill d.file (path? s)).map fun file => { d with file }

/-- The draft with one more option that takes a value. -/
def withSetting (d : Draft) (which : Setting) (s : String) : Option Draft :=
  (Arguments.withSetting d.options which s).map fun options => { d with options }

/-- The draft with one more flag. -/
def withFlag (d : Draft) (f : Flag) : Option Draft :=
  (Arguments.withFlag d.options f).map fun options => { d with options }

/-- What a draft means when no word is left: the document must be named. -/
def finish (d : Draft) : Request :=
  match d.file with
  | some file => .run ⟨file, d.options⟩
  | none => .refused

/-- What words mean of which each is a document. -/
def readFiles (d : Draft) : List String → Request
  | [] => d.finish
  | w :: ws =>
    match d.withFile w with
    | some d => d.readFiles ws
    | none => .refused

/-- What the remaining words mean. -/
def read (d : Draft) : List String → Request
  | [] => d.finish
  | w :: ws =>
    match Word.ofText w with
    | .separator => d.readFiles ws
    | .plain s =>
      match d.withFile s with
      | some d => d.read ws
      | none => .refused
    | .unknown => .refused
    | .option .help none => .help
    | .option .version none => .version
    | .option (.flag f) none =>
      match d.withFlag f with
      | some d => d.read ws
      | none => .refused
    | .option (.setting o) (some s) =>
      match d.withSetting o s with
      | some d => d.read ws
      | none => .refused
    | .option (.setting o) none =>
      match ws with
      | [] => .refused
      | v :: ws =>
        match Word.ofText v with
        | .plain s =>
          match d.withSetting o s with
          | some d => d.read ws
          | none => .refused
        | _ => .refused
    | .option _ (some _) => .refused

end Draft

/-- What a command line means. -/
def read (words : List String) : Request := Draft.read {} words

end Arguments

end Outline
