import Outline.Environment
import Outline.Layout
import Outline.Text.Natural

/-!
# Settings

Settings come in layers: the command line over the environment over a settings file over the
defaults. Each setting is taken from the uppermost layer that gives it, independently of the
others.
-/

namespace Outline

/-- All settings. -/
structure Settings where
  /-- Spaces for each level of depth. -/
  indent : Nat
  /-- Whether values are printed. -/
  values : Bool
  /-- Whether every group is expanded. -/
  expandAll : Bool
  /-- Where the log is written. -/
  logFile : Path
deriving DecidableEq

/-- Some settings. -/
structure Layer where
  /-- Spaces for each level of depth. -/
  indent : Option Nat := none
  /-- Whether values are printed. -/
  values : Option Bool := none
  /-- Whether every group is expanded. -/
  expandAll : Option Bool := none
  /-- Where the log is written. -/
  logFile : Option Path := none
deriving DecidableEq

/-- The layer that gives nothing. -/
def Layer.empty : Layer := {}

/-- The settings of a layer, and below it those of another. -/
def Layer.over (l : Layer) (s : Settings) : Settings :=
  ⟨l.indent.getD s.indent, l.values.getD s.values, l.expandAll.getD s.expandAll,
    l.logFile.getD s.logFile⟩

namespace Settings

/-- The settings without any layer. -/
def defaults (e : Environment) : Settings := ⟨2, true, false, e.logFile⟩

/-- The layer of the environment. An indentation that is no number is passed over. -/
def environmentLayer (e : Environment) : Layer :=
  { indent := (e.get? "TREETABLE_INDENT").bind fun s => Text.natural? (Text.trim s.toList) }

/-- The settings of three layers over the defaults. -/
def resolve (e : Environment) (file commandLine : Layer) : Settings :=
  commandLine.over ((environmentLayer e).over (file.over (defaults e)))

/-- How rows are printed. -/
def layout (s : Settings) : Layout := ⟨s.indent, s.values⟩

/-- The settings on one line. -/
def describe (s : Settings) : String :=
  "ResolvedConfig \x7b indent_width: " ++ toString s.indent ++ ", show_values: " ++
    toString s.values ++ ", expand_all: " ++ toString s.expandAll ++ ", log_file_path: " ++
    s.logFile.quote ++ " \x7d"

end Settings

end Outline
