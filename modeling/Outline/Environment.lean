import Outline.Directories

/-!
# The environment

Named variables, and the directories that the system has for settings and state. A variable whose
value is no text counts as missing. Which directories there are is not read off the variables here:
they are what the system answers, whatever rule it follows (`Environment.withDirectories` follows
that of `Directories.find`).
-/

namespace Outline

/-- The variables with their values, and the directories. -/
structure Environment where
  /-- Names and values. -/
  bindings : List (String × String)
  /-- Where settings and state are kept. -/
  directories : Directories

namespace Environment

/-- The value of a variable. -/
def get? (e : Environment) (name : String) : Option String :=
  (e.bindings.find? fun v => v.1 == name).map Prod.snd

/-- The environment with a variable set, or removed. -/
def set (e : Environment) (name : String) (value : Option String) : Environment :=
  let others := e.bindings.filter fun v => v.1 != name
  { e with bindings := (value.map fun v => (name, v)).toList ++ others }

/-- The environment with the directories that its variables and the home directory of the user's
account determine. -/
def withDirectories (e : Environment) (account : Option Path) : Environment :=
  { e with directories := .find e.get? account }

/-- The settings file that is used if none is named. -/
def settingsFile? (e : Environment) : Option Path :=
  e.directories.settings?.map fun d => d / "treetable" / "config.toml"

/-- The log file that is used if none is named. -/
def logFile (e : Environment) : Path :=
  match e.directories.state? with
  | some d => d / "treetable" / "treetable.log"
  | none => ⟨"treetable.log"⟩

end Environment

end Outline
