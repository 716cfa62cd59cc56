import Outline.Editing
import Outline.Log.Filter
import Outline.Settings

/-!
# The log

A record says what happened where, with named details. What a view does is recorded from the
events of its operations; calls to listeners are not recorded.
-/

namespace Outline.Log

/-- The parts of the program that write records. -/
inductive Part where
  /-- The program as a whole. -/
  | program
  /-- Reading tree documents. -/
  | documents
  /-- The rows. -/
  | rows
  /-- The edit in progress. -/
  | editing
deriving DecidableEq

/-- The target of the records of a part. -/
def Part.target : Part → String
  | program => "treetable"
  | documents => "treetable::source::file"
  | rows => "treetable::projection::engine"
  | editing => "treetable::table::edit_session"

/-- Something worth recording. -/
structure Record where
  /-- How grave it is. -/
  level : Level
  /-- Where it happened. -/
  part : Part
  /-- What happened. -/
  message : String
  /-- The details, by name. -/
  details : List (String × String)
deriving DecidableEq

namespace Record

/-! ### The records -/

/-- The settings are known. -/
def settled (s : Settings) : Record :=
  ⟨.info, .program, "Configuration loaded and resolved", [("config", s.describe)]⟩

/-- A document was read. -/
def loaded (p : Path) (nodes : List Node) : Record :=
  ⟨.debug, .documents, "loaded tree document",
    [("path", p.text), ("top_level", toString nodes.length)]⟩

/-- No row shows a group that is to be expanded. -/
def noSuchGroup (name : String) : Record :=
  ⟨.warn, .program, "no collapsed group with this name is visible", [("name", name)]⟩

/-- Another forest is shown. -/
def replaced (a : Adjustment) (rowCount : Nat) : Record :=
  ⟨.info, .program, "tree replaced",
    [("outcome", a.describe), ("rows", toString rowCount)]⟩

/-- The record of an event, if it is recorded. -/
def ofEvent? : Event → Option Record
  | .expansionChanged verb row =>
    some ⟨.debug, .rows, "expansion changed",
      [("op", Text.quote verb.label), ("row", toString row)]⟩
  | .rowsRebuilt change =>
    some ⟨.debug, .rows, "rows rebuilt",
      [("cause", change.cause.label), ("row_count", toString change.rowCount)]⟩
  | .called _ => none
  | .editFollowed node source target =>
    some ⟨.debug, .editing, "edit followed node",
      [("node", node.name), ("from", toString source), ("to", toString target)]⟩
  | .editDropped node =>
    some ⟨.debug, .editing, "edited node disappeared, cancelling edit", [("node", node.name)]⟩

/-- The records of what an operation did. -/
def ofEvents (es : List Event) : List Record := es.filterMap ofEvent?

/-! ### The text of records -/

/-- Blanks before a text that is shorter than the width. -/
def padded (width : Nat) (s : String) : String := Layout.spaces (width - s.length) ++ s

/-- The line of a record that was written at a given time. -/
def line (time : String) (r : Record) : String :=
  time ++ " " ++ padded 5 r.level.label ++ " " ++ r.part.target ++ ": " ++ r.message ++
    String.join (r.details.map fun (name, value) => " " ++ name ++ "=" ++ value) ++ "\n"

/-- Whether a filter lets the record through. -/
def passes (f : Filter) (r : Record) : Bool := f.allows r.part.target r.level

end Record

/-- The lines of the records that a filter lets through. -/
def text (f : Filter) (time : String) (rs : List Record) : String :=
  String.join ((rs.filter (Record.passes f)).map (Record.line time))

end Outline.Log
