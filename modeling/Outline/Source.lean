import Outline.Document
import Outline.Files

/-!
# Tree documents in files

`load` reads the nodes of a tree document from a file.
-/

namespace Outline.Source

/-- Why a file gives no nodes. -/
inductive LoadError where
  /-- There is no such file. -/
  | notFound (path : Path)
  /-- The file gives no text. -/
  | unreadable (e : Files.ReadError)
  /-- The text is no tree document. -/
  | invalid (path : Path) (r : Document.Refusal)
deriving DecidableEq

namespace LoadError

/-- The error for the reader. -/
def message : LoadError → String
  | notFound p => "File not found: " ++ p.text
  | unreadable e => "IO error: " ++ e.message
  | invalid p r => "Invalid tree document " ++ p.text ++ ": " ++ r.message

/-- The error with all its parts. -/
def describe : LoadError → String
  | notFound p => "FileNotFound \x7b path: " ++ p.quote ++ " \x7d"
  | unreadable e => "Io(" ++ e.describe ++ ")"
  | invalid p r =>
    "Parse \x7b path: " ++ p.quote ++ ", reason: " ++ Text.quote r.message ++ " \x7d"

end LoadError

/-- The nodes of a document that came from a place. -/
def parse (origin : Path) (text : String) : Except LoadError (List Node) :=
  (Document.read text).mapError (.invalid origin)

/-- The nodes of the document in a file. -/
def load (f : Files) (p : Path) : Except LoadError (List Node) :=
  if f.exists? p then
    match f.readText p with
    | .error e => .error (.unreadable e)
    | .ok text => parse p text
  else .error (.notFound p)

end Outline.Source
