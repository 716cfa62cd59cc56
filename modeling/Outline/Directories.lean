import Outline.Path

/-!
# Directories for settings and state

A system keeps the settings of a user in one directory and what programs leave for their next run in
another. `Directories` says where they are, as far as that is known; whoever knows the system says
it. `Directories.find` is the rule of systems on which two variables name these directories, and
which have them below the home directory otherwise. Paths are texts, here as everywhere: a directory
whose name is no text is not known.
-/

namespace Outline

/-- Where settings and state are kept. -/
structure Directories where
  /-- Where settings are kept. -/
  settings? : Option Path
  /-- Where state is kept. -/
  state? : Option Path
deriving DecidableEq

namespace Directories

/-- No directory is known. -/
def unknown : Directories := ⟨none, none⟩

/-- The home directory: that of the variable, unless it is empty, and else that of the account. -/
def home? (value? : String → Option String) (account : Option Path) : Option Path :=
  (((value? "HOME").filter fun h => !h.isEmpty).map Path.mk).or account

/-- The directory of a variable, unless it is not absolute, and else one below the home directory.
-/
def directory? (value? : String → Option String) (account : Option Path)
    (name below : String) : Option Path :=
  (((value? name).map Path.mk).filter Path.isAbsolute).or
    ((home? value? account).map fun h => h / below)

/-- The directories that variables and the home directory of the user's account determine. -/
def find (value? : String → Option String) (account : Option Path) : Directories :=
  ⟨directory? value? account "XDG_CONFIG_HOME" ".config",
    directory? value? account "XDG_STATE_HOME" ".local/state"⟩

end Directories

end Outline
