import Outline.Path

/-!
# Files

A tree of directories and files, with a working directory at which paths that are not absolute
begin, and with what is permitted at each place. A path is followed segment by segment: each
segment, also one that means nothing, can only be followed within a directory, and within one that
may be searched.

Everything in the tree is a directory or an ordinary file. There are no links, and no devices: text
that is added to a file can be read from it again, and goes nowhere else.
-/

namespace Outline

/-- A file or a directory. -/
inductive Entry where
  /-- A file with its bytes. -/
  | file (content : ByteArray)
  /-- A directory with its named entries. -/
  | directory (entries : List (String × Entry))

/-- Why a path cannot be used. -/
inductive FileError where
  /-- Nothing stands there. -/
  | missing
  /-- Something stands there. -/
  | alreadyExists
  /-- A file stands where a directory is needed. -/
  | notDirectory
  /-- A directory stands where a file is needed. -/
  | isDirectory
  /-- What is asked for is not permitted. -/
  | denied
deriving DecidableEq

namespace FileError

/-- The number of the error. -/
def code : FileError → Nat
  | missing => 2
  | alreadyExists => 17
  | notDirectory => 20
  | isDirectory => 21
  | denied => 13

/-- The wording of the error. -/
def wording : FileError → String
  | missing => "No such file or directory"
  | alreadyExists => "File exists"
  | notDirectory => "Not a directory"
  | isDirectory => "Is a directory"
  | denied => "Permission denied"

/-- The class of the error. -/
def kind : FileError → String
  | missing => "NotFound"
  | alreadyExists => "AlreadyExists"
  | notDirectory => "NotADirectory"
  | isDirectory => "IsADirectory"
  | denied => "PermissionDenied"

/-- The error for the reader. -/
def message (e : FileError) : String := e.wording ++ " (os error " ++ toString e.code ++ ")"

/-- The error with all its parts. -/
def describe (e : FileError) : String :=
  "Os \x7b code: " ++ toString e.code ++ ", kind: " ++ e.kind ++ ", message: " ++
    Text.quote e.wording ++ " \x7d"

end FileError

namespace Entry

/-- The entry of a name. -/
def lookup (name : String) (es : List (String × Entry)) : Option Entry :=
  (es.find? fun e => e.1 == name).map Prod.snd

/-- The entry that a list of names leads to. -/
def find? : Entry → List String → Option Entry
  | e, [] => some e
  | directory es, name :: names => (lookup name es).bind fun e => e.find? names
  | file _, _ :: _ => none

/-- The entries with one of them changed. -/
def update (name : String) (e : Entry) (es : List (String × Entry)) : List (String × Entry) :=
  if (lookup name es).isSome then es.map fun x => if x.1 == name then (name, e) else x
  else es ++ [(name, e)]

/-- The tree with an entry put where the names lead. Missing directories are made, and a file on
the way gives place to a directory. -/
def insert (e : Entry) : List String → Entry → Entry
  | [], _ => e
  | name :: names, directory es =>
    directory (update name (insert e names ((lookup name es).getD (directory []))) es)
  | name :: names, file _ => directory [(name, insert e names (directory []))]

end Entry

/-- What can be done with what stands at a place. -/
inductive Access where
  /-- Look at what is in it. -/
  | read
  /-- Change what is in it. -/
  | write
  /-- Follow a path within it. -/
  | search
deriving DecidableEq

/-- All files, where paths begin, and what is permitted. -/
structure Files where
  /-- The directory that holds everything. -/
  root : Entry
  /-- The names that lead to the working directory. -/
  workingDirectory : List String
  /-- What is permitted with what stands, or comes to stand, at a place. -/
  permits : Access → (place : List String) → Bool

namespace Files

/-- Files with which everything is permitted. -/
def unrestricted (root : Entry) (workingDirectory : List String) : Files :=
  ⟨root, workingDirectory, fun _ _ => true⟩

/-- The names that segments lead to, from a place that names lead to. To follow a segment, unless it
is empty, takes a directory that may be searched. -/
def walk (f : Files) : (place : List String) → List (List Char) → Except FileError (List String)
  | place, [] => .ok place
  | place, s :: ss =>
    match f.root.find? place with
    | none => .error .missing
    | some (.file _) => .error .notDirectory
    | some (.directory es) =>
      if !s.isEmpty && !f.permits .search place then .error .denied
      else if Path.isIdle s then walk f place ss
      else if s = ['.', '.'] then walk f place.dropLast ss
      else
        let name := String.ofList s
        if (Entry.lookup name es).isSome then walk f (place ++ [name]) ss
        else .error .missing

/-- The names that a path leads to. -/
def resolve (f : Files) (p : Path) : Except FileError (List String) :=
  if p.text.isEmpty then .error .missing
  else f.walk (if p.isAbsolute then [] else f.workingDirectory) p.segments

/-- Where a path leads, and what stands there. -/
def entry (f : Files) (p : Path) : Except FileError (List String × Entry) := do
  let place ← f.resolve p
  match f.root.find? place with
  | some e => return (place, e)
  | none => throw .missing

/-- Whether a path leads to anything. -/
def exists? (f : Files) (p : Path) : Bool := (f.entry p) matches .ok _

/-- Whether a path leads to a directory. -/
def isDirectory (f : Files) (p : Path) : Bool := (f.entry p) matches .ok (_, .directory _)

/-- The bytes of what stands at a place, if they may be read. -/
def content (f : Files) (place : List String) (e : Entry) : Except FileError ByteArray :=
  if !f.permits .read place then .error .denied
  else
    match e with
    | .file content => .ok content
    | .directory _ => .error .isDirectory

/-- The bytes of the file that a path leads to. -/
def read (f : Files) (p : Path) : Except FileError ByteArray := do
  let (place, e) ← f.entry p
  f.content place e

/-! ### Changing -/

/-- Put an entry where names lead. -/
def put (f : Files) (place : List String) (e : Entry) : Files :=
  { f with root := Entry.insert e place f.root }

/-- The place of something new: where the directory that is to hold it stands, and its name. -/
def vacancy (f : Files) (p : Path) : Except FileError (List String) :=
  match p.inDirectory with
  | none => .error .missing
  | some (dir, name) => do
    let place ← f.resolve dir
    match f.root.find? place with
    | some (.directory _) =>
      if f.permits .write place then return place ++ [name] else throw .denied
    | _ => throw .notDirectory

/-- Make a directory in one that exists. -/
def makeDirectory (f : Files) (p : Path) : Except FileError Files :=
  match f.resolve p with
  | .ok _ => .error .alreadyExists
  | .error .missing => (f.vacancy p).map fun place => f.put place (.directory [])
  | .error e => .error e

/-- Make a directory and all that are missing above it, each of which takes one unit of fuel. What
was made stays, also if an error follows; a directory that exists already is no error. -/
def makeDirectories : (fuel : Nat) → Files → Path → Option FileError × Files
  | 0, f, _ => (some .missing, f)
  | fuel + 1, f, p =>
    if p.text.isEmpty then (none, f)
    else
      match f.makeDirectory p with
      | .ok f => (none, f)
      | .error .missing =>
        match makeDirectories fuel f p.parent with
        | (some e, f) => (some e, f)
        | (none, f) =>
          match f.makeDirectory p with
          | .ok f => (none, f)
          | .error e => (if f.isDirectory p then none else some e, f)
      | .error e => (if f.isDirectory p then none else some e, f)

/-- Make a directory and all that are missing above it. -/
def ensureDirectory (f : Files) (p : Path) : Option FileError × Files :=
  makeDirectories (p.text.length + 2) f p

/-- Open a file for more text, making it if it is missing. The answer is where it stands. -/
def openForMore (f : Files) (p : Path) : Except FileError (List String × Files) :=
  match f.resolve p with
  | .ok place =>
    match f.root.find? place with
    | some (.file _) => if f.permits .write place then .ok (place, f) else .error .denied
    | _ => .error .isDirectory
  | .error .missing => (f.vacancy p).map fun place => (place, f.put place (.file .empty))
  | .error e => .error e

/-- Add text to the end of an open file. -/
def addText (f : Files) (place : List String) (s : String) : Files :=
  match f.root.find? place with
  | some (.file content) => f.put place (.file (content ++ s.toUTF8))
  | _ => f

/-! ### Text -/

/-- Why the text of a file cannot be had. -/
inductive ReadError where
  /-- The file cannot be read. -/
  | file (e : FileError)
  /-- Its bytes are no text. -/
  | notText
deriving DecidableEq

/-- The error for the reader. -/
def ReadError.message : ReadError → String
  | file e => e.message
  | notText => "stream did not contain valid UTF-8"

/-- The error with all its parts. -/
def ReadError.describe : ReadError → String
  | file e => e.describe
  | notText =>
    "Error \x7b kind: InvalidData, message: \"stream did not contain valid UTF-8\" \x7d"

/-- The text of the file that a path leads to. -/
def readText (f : Files) (p : Path) : Except ReadError String :=
  match f.read p with
  | .error e => .error (.file e)
  | .ok content =>
    match String.fromUTF8? content with
    | some s => .ok s
    | none => .error .notText

end Files

end Outline
