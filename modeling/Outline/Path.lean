import Outline.Text.Quoted

/-!
# Paths

A path is a text cut into segments by slashes. Its components are what the segments mean: empty
segments mean nothing, a dot means nothing either unless it is the first segment, two dots go up,
and any other segment is a name. A path that begins with a slash begins at the root.

`Path.inDirectory` cuts a path that ends in a name into this name and the path of the directory
that holds it.
-/

namespace Outline

/-- A path as it was given. -/
structure Path where
  /-- The text of the path. -/
  text : String
deriving DecidableEq

namespace Path

/-- What a segment of a path means. -/
inductive Component where
  /-- The root of all files. -/
  | root
  /-- The directory itself. -/
  | here
  /-- The directory above. -/
  | up
  /-- The file or directory of this name. -/
  | named (name : List Char)
deriving DecidableEq

/-! ### Segments -/

/-- The parts of a text between slashes; there is always one. -/
def split : List Char → List (List Char)
  | [] => [[]]
  | c :: cs =>
    if c = '/' then [] :: split cs
    else
      match split cs with
      | s :: ss => (c :: s) :: ss
      | [] => [[c]]

/-- Segments put together again with slashes between them. -/
def join : List (List Char) → List Char
  | [] => []
  | [s] => s
  | s :: ss => s ++ '/' :: join ss

/-- Whether a segment that is not the first one means nothing. -/
def isIdle (s : List Char) : Bool := s.isEmpty || s == ['.']

/-- The segments up to the last one that means something. -/
def trimIdle (ss : List (List Char)) : List (List Char) := (ss.reverse.dropWhile isIdle).reverse

/-- The segments of the path. -/
def segments (p : Path) : List (List Char) := split p.text.toList

/-- Whether the path begins at the root. -/
def isAbsolute (p : Path) : Bool := p.text.toList.head? == some '/'

/-! ### Components -/

/-- What a segment that is not the first one means. -/
def laterComponent? (s : List Char) : Option Component :=
  if isIdle s then none else if s = ['.', '.'] then some .up else some (.named s)

/-- What the first segment means. -/
def firstComponent? (s : List Char) : Option Component :=
  if s = ['.'] then some .here else laterComponent? s

/-- What the segments of a path mean. -/
def components (p : Path) : List Component :=
  match p.segments with
  | [] => []
  | s :: ss =>
    (if p.isAbsolute then some .root else firstComponent? s).toList ++ ss.filterMap laterComponent?

/-- The name that the path ends in, if it ends in one. -/
def fileName? (p : Path) : Option (List Char) :=
  match p.components.getLast? with
  | some (.named s) => some s
  | _ => none

/-- The path without its last component. -/
def parent (p : Path) : Path :=
  match p.segments with
  | [] => p
  | s :: ss =>
    match (trimIdle ss) with
    | [] => ⟨if p.isAbsolute then "/" else ""⟩
    | rest =>
      let above := trimIdle rest.dropLast
      if p.isAbsolute && above.isEmpty then ⟨"/"⟩ else ⟨String.ofList (join (s :: above))⟩

/-- A path that goes on from a directory; an absolute path stands for itself. -/
def append (dir p : Path) : Path :=
  if p.isAbsolute || dir.text.isEmpty then p
  else if dir.text.toList.getLast? == some '/' then ⟨dir.text ++ p.text⟩
  else ⟨dir.text ++ "/" ++ p.text⟩

instance : HDiv Path String Path := ⟨fun dir name => dir.append ⟨name⟩⟩

/-- The directory that holds what the path names, and its name there. A bare name is held by the
directory `.`; a path that does not end in a name is not cut. -/
def inDirectory (p : Path) : Option (Path × String) :=
  p.fileName?.map fun name =>
    let dir := p.parent
    (if dir.text.isEmpty then ⟨"."⟩ else dir, String.ofList name)

/-- The path between quotes. -/
def quote (p : Path) : String := Text.quote p.text

end Path

end Outline
