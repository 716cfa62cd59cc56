import Outline.Toml.Value

/-!
# Building TOML tables

Tables grow by entries under dotted keys and by headers. A key can be given once; dotted keys only
enter tables that dotted keys made, and a header only enters a table that the headers of tables
within it made before. Where a table is entered through its name and the name stands for a list of
tables, the last of them is meant.
-/

namespace Outline.Toml

/-- What stands under a name. -/
def find? (name : String) (es : Entries) : Option Item :=
  (es.find? fun e => e.1.name == name).map Prod.snd

/-- The entries with another item under a name that they hold. -/
def replace (name : String) (item : Item) (es : Entries) : Entries :=
  es.map fun e => if e.1.name == name then (e.1, item) else e

/-- The entries without a name. -/
def erase (name : String) (es : Entries) : Entries := es.filter fun e => e.1.name != name

/-- Change the table at the end of a path. Missing tables on the way are made, in a way that
`dotted` tells; the change is told how the table was made. -/
def changeAt {α : Type} (dotted : Bool) (change : Made → Entries → Option (α × Entries)) :
    (path : List Key) → (made : Made) → Entries → Option (α × Entries)
  | [], made, es => change made es
  | k :: path, _, es =>
    match find? k.name es with
    | none => do
      let made := if dotted then .byDots else .byHeader
      let (a, inner) ← changeAt dotted change path made []
      return (a, es ++ [(k, .table made none inner)])
    | some (.table made span inner) => do
      if dotted && made = .explicit then none
      let (a, inner) ← changeAt dotted change path made inner
      return (a, replace k.name (.table made span inner) es)
    | some (.tables (last :: before) span) => do
      let (a, last) ← changeAt dotted change path .explicit last
      return (a, replace k.name (.tables (last :: before) span) es)
    | some _ => none

/-- Add an entry under a dotted key, given by the names before the last one and the last one. -/
def addEntry (path : List Key) (key : Key) (item : Item) (es : Entries) : Option Entries :=
  let add (made : Made) (es : Entries) : Option (Unit × Entries) :=
    if decide (made = .byDots) == path.isEmpty || (find? key.name es).isSome then none
    else some ((), es ++ [(key, item)])
  (changeAt true add path .explicit es).map Prod.snd

/-- The table that is being filled. -/
structure Section where
  /-- The names before the last one of its header; nothing at the top level. -/
  parents : List Key
  /-- The last name of its header. -/
  key : Option Key
  /-- Whether its header has doubled brackets. -/
  repeated : Bool
  /-- From its header to its last value. -/
  span : Span
  /-- Its entries. -/
  entries : Entries

/-- A document of which some lines were read. -/
structure Draft where
  /-- The tables that are complete. -/
  root : Entries
  /-- The table that is being filled. -/
  current : Section

namespace Draft

/-- No line was read. -/
def empty : Draft := ⟨[], ⟨[], none, false, ⟨0, 0⟩, []⟩⟩

/-- Complete the table that is being filled. -/
def close (d : Draft) : Option Entries :=
  let s := d.current
  match s.key with
  | none => some s.entries
  | some key =>
    let place (_ : Made) (es : Entries) : Option (Unit × Entries) :=
      match find? key.name es with
      | none =>
        let item : Item :=
          if s.repeated then .tables [s.entries] s.span
          else .table .explicit (some s.span) s.entries
        some ((), es ++ [(key, item)])
      | some (.tables before span) =>
        if s.repeated then
          some ((), replace key.name (.tables (s.entries :: before) ⟨span.start, s.span.stop⟩) es)
        else none
      | some _ => none
    (changeAt false place s.parents .explicit d.root).map Prod.snd

/-- Begin the table of a header. -/
def openTable (d : Draft) (parents : List Key) (key : Key) (span : Span) : Option Draft := do
  let root ← d.close
  let reopen (_ : Made) (es : Entries) : Option (Entries × Entries) :=
    match find? key.name es with
    | none => some ([], es)
    | some (.table .byHeader _ inner) => some (inner, erase key.name es)
    | some _ => none
  let (entries, root) ← changeAt false reopen parents .explicit root
  return ⟨root, ⟨parents, some key, false, span, entries⟩⟩

/-- Begin one more table of a header in doubled brackets. -/
def openRepeated (d : Draft) (parents : List Key) (key : Key) (span : Span) : Option Draft := do
  let root ← d.close
  let check (_ : Made) (es : Entries) : Option (Unit × Entries) :=
    match find? key.name es with
    | none => some ((), es)
    | some (.tables _ _) => some ((), es)
    | some _ => none
  let (_, root) ← changeAt false check parents .explicit root
  return ⟨root, ⟨parents, some key, true, span, []⟩⟩

/-- Add an entry to the table that is being filled. -/
def add (d : Draft) (path : List Key) (key : Key) (item : Item) : Option Draft := do
  let s := d.current
  let entries ← addEntry path key item s.entries
  let stop := match item.span with
    | some span => span.stop
    | none => s.span.stop
  return { d with current := { s with entries, span := ⟨s.span.start, stop⟩ } }

end Draft

end Outline.Toml
