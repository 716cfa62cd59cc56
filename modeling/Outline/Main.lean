import Std.Time.DateTime
import Outline.Run

/-!
# The program

The command line program takes a picture of those files that a run can look at, asks `Run.report`
what to do, and does it. The picture tells what may be searched and read. What may be written is not
asked beforehand: a log that cannot be written is left out.
-/

namespace Outline.Main

/-- The variables that a run looks at. -/
def variableNames : List String :=
  ["HOME", "XDG_CONFIG_HOME", "XDG_STATE_HOME", "TREETABLE_CONFIG", "TREETABLE_INDENT", "RUST_LOG"]

/-- The home directory of the account of a process, by the status of the process and the list of
accounts. -/
def accountHome (status accounts : String) : Option Path := do
  let line ← (status.splitOn "\n").find? fun l => l.startsWith "Uid:"
  let user ← (line.splitOn "\t")[1]?
  let fields ← ((accounts.splitOn "\n").map fun l => l.splitOn ":").find? fun fields =>
    fields[2]? == some user
  let home ← fields[5]?
  if home.isEmpty then none else some ⟨home⟩

/-- The text of a file, or none if it has none. -/
def readText (path : String) : IO String := do
  match ← (IO.FS.readFile path).toBaseIO with
  | .ok text => return text
  | .error _ => return ""

/-- The present values of these variables, and the directories. -/
def readEnvironment : IO Environment := do
  let values ← variableNames.mapM fun name => do
    return (← IO.getEnv name).map fun value => (name, value)
  let account := accountHome (← readText "/proc/self/status") (← readText "/etc/passwd")
  return Environment.withDirectories ⟨values.filterMap id, .unknown⟩ account

/-- A number with zeros before it. -/
def digits (width : Nat) (n : Int) : String :=
  let s := toString n
  String.ofList (List.replicate (width - s.length) '0') ++ s

/-- The present time. -/
def readTime : IO String := do
  let now ← Std.Time.Timestamp.now
  let t := Std.Time.PlainDateTime.ofWallTime (Std.Time.WallTime.ofDuration now.val)
  return digits 4 t.year.toInt ++ "-" ++ digits 2 t.month.val ++ "-" ++ digits 2 t.day.val ++ "T" ++
    digits 2 t.hour.val ++ ":" ++ digits 2 t.minute.val ++ ":" ++ digits 2 t.second.val ++ "." ++
    digits 6 (t.nanosecond.val / 1000) ++ "Z"

/-- The names of a path. -/
def namesOf (path : String) : List String :=
  ((Path.split path.toList).filter fun s => !Path.isIdle s).map String.ofList

/-- The path of a place. -/
def pathOf (place : List String) : String := "/" ++ String.intercalate "/" place

/-- A picture in which something is not permitted at a place. -/
def deny (f : Files) (access : Access) (place : List String) : Files :=
  { f with permits := fun a q => f.permits a q && !(a == access && q == place) }

/-- Add to a picture what stands at a place, if anything does. -/
def addPlace (f : Files) (place : List String) : IO Files := do
  match f.root.find? place.dropLast with
  | some (.directory es) =>
    if (place.getLast?.bind fun name => Entry.lookup name es).isSome then return f
    let path := (← IO.currentDir) / pathOf place
    match ← path.metadata.toBaseIO with
    | .error (.permissionDenied ..) => return deny f .search place.dropLast
    | .error _ => return f
    | .ok found =>
      let content ← (IO.FS.readBinFile path).toBaseIO
      let e : Entry := match found.type, content with
        | .dir, _ => .directory []
        | _, .ok bytes => .file bytes
        | _, .error _ => .file .empty
      match content with
      | .error (.permissionDenied ..) => return deny (f.put place e) .read place
      | _ => return f.put place e
  | _ => return f

/-- Add to a picture what stands on the way from a place along segments. -/
def addWay (f : Files) (place : List String) : List (List Char) → IO Files
  | [] => return f
  | s :: ss => do
    if Path.isIdle s then addWay f place ss
    else if s = ['.', '.'] then addWay f place.dropLast ss
    else
      let place := place ++ [String.ofList s]
      addWay (← addPlace f place) place ss

/-- Add to a picture what stands on the way to a path. -/
def addPath (f : Files) (p : Path) : IO Files :=
  addWay f (if p.isAbsolute then [] else f.workingDirectory) p.segments

/-- A picture of the files that a run with these options can look at. -/
def readFiles (e : Environment) (a : Arguments) : IO Files := do
  let here := namesOf (← IO.currentDir).toString
  let f := (Files.unrestricted (.directory []) here).put here (.directory [])
  let f ← (Settings.candidate? e a.options.config).toList.foldlM addPath f
  let f ← addPath f a.file
  let f ← a.options.replace.toList.foldlM addPath f
  match Run.settings f e a.options with
  | .ok s => addPath f s.logFile
  | .error _ => return f

/-- Write a log file, if it can be written. -/
def writeLog (f : Files) (place : List String) : IO Unit := do
  match f.root.find? place with
  | some (.file content) =>
    let write : IO Unit := do
      IO.FS.createDirAll (pathOf place.dropLast)
      IO.FS.writeBinFile (pathOf place) content
    discard write.toBaseIO
  | _ => return

end Outline.Main

open Outline in
/-- Show a tree document as rows. -/
def main (words : List String) : IO UInt32 := do
  let e ← Main.readEnvironment
  let f ← match Arguments.read words with
    | .run a => Main.readFiles e a
    | _ => pure (.unrestricted (.directory []) [])
  let r := Run.report ⟨f, e, ← Main.readTime⟩ words
  r.log.forM (Main.writeLog r.files)
  IO.eprint r.complaints
  IO.print r.output
  return r.code.toUInt32
