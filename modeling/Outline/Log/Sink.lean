import Outline.Files
import Outline.Log

/-!
# The log file

The log is written to the end of a file, which is made if it is missing, and so is its directory.
If there can be no such file, the log is given up, and the reader is told why.
-/

namespace Outline.Log

/-- Where records go. -/
structure Sink where
  /-- The names that lead to the log file. -/
  place : List String
  /-- Which records are written. -/
  filter : Filter
  /-- The time that is written before each record. -/
  time : String

/-- Write records to the end of the log file. -/
def Sink.write (k : Sink) (rs : List Record) (f : Files) : Files :=
  f.addText k.place (text k.filter k.time rs)

/-- Why there is no log file. -/
inductive Refusal where
  /-- The path does not end in a name. -/
  | unnamed (p : Path)
  /-- Its directory cannot be made. -/
  | noDirectory (dir : Path) (e : FileError)
deriving DecidableEq

/-- The refusal for the reader. -/
def Refusal.message : Refusal → String
  | unnamed p => "Invalid log file path: " ++ p.quote
  | noDirectory dir e =>
    "Failed to create log directory at " ++ dir.quote ++ ": " ++ e.message

/-- What became of the log. -/
inductive Opening where
  /-- Records go to a file. -/
  | opened (k : Sink)
  /-- Records go nowhere. -/
  | disabled (r : Refusal)
  /-- The file cannot be written, and the program cannot go on. -/
  | unusable

/-- Everything is let through that is at least of interest. -/
def standardFilter : Filter := .ofLimit (some .info)

/-- Open the log file of a path. -/
def openFile (f : Files) (e : Environment) (time : String) (p : Path) : Opening × Files :=
  match p.inDirectory with
  | none => (.disabled (.unnamed p), f)
  | some (dir, name) =>
    match f.ensureDirectory dir with
    | (some x, f) => (.disabled (.noDirectory dir x), f)
    | (none, f) =>
      match f.openForMore (dir / name) with
      | .error _ => (.unusable, f)
      | .ok (place, f) => (.opened ⟨place, .ofEnvironment e standardFilter, time⟩, f)

end Outline.Log
