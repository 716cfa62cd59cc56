import Outline.Toml.Scalar
import Outline.Toml.Table

/-!
# Reading TOML

`read` gives the entries of a TOML text at the top level, in the order in which they came to
stand, or nothing if the text is not TOML.
-/

namespace Outline.Toml

/-- How deep brackets and braces can be nested, and how many names a dotted key can have. -/
def maxDepth : Nat := 79

/-- Where something stands that begins where `before` is left and ends where `after` is left of a
text of `total` characters. -/
def spanBetween (total : Nat) (before after : List Char) : Span :=
  ⟨total - before.length, total - after.length⟩

/-! ### Keys -/

/-- Characters of names without quotes. -/
def isNameChar (c : Char) : Bool :=
  c.isDigit || ('a' ≤ c && c ≤ 'z') || ('A' ≤ c && c ≤ 'Z') || c = '_' || c = '-'

/-- A single name. -/
def readName (total : Nat) (cs : List Char) : Option (Key × List Char) :=
  match cs with
  | c :: _ =>
    if c = '"' || c = '\x27' then
      (readLineString cs).map fun (s, rest) => (⟨s, spanBetween total cs rest⟩, rest)
    else
      let name := cs.takeWhile isNameChar
      let rest := cs.dropWhile isNameChar
      if name.isEmpty then none
      else some (⟨String.ofList name, spanBetween total cs rest⟩, rest)
  | [] => none

/-- Names with dots between them, as those before the last one and the last one. -/
def readKey (total : Nat) : (fuel : Nat) → Reader (List Key × Key)
  | 0, _ => none
  | fuel + 1, cs => do
    let (k, rest) ← readName total (skipBlanks cs)
    match skipBlanks rest with
    | '.' :: rest => do
      let ((path, last), rest) ← readKey total fuel rest
      return ((k :: path, last), rest)
    | rest => return (([], k), rest)

/-! ### Values -/

/-- The items of an array after the first, and its end. -/
def readMoreItems (value : Reader Item) : (fuel : Nat) → (taken : List Item) → Reader (List Item)
  | 0, _, _ => none
  | fuel + 1, taken, cs => do
    match ← skipSpace cs with
    | ']' :: rest => return (taken.reverse, rest)
    | ',' :: rest =>
      match ← skipSpace rest with
      | ']' :: rest => return (taken.reverse, rest)
      | rest =>
        let (v, rest) ← value rest
        readMoreItems value fuel (v :: taken) rest
    | _ => none

/-- The items of an array, after its bracket. -/
def readItems (value : Reader Item) (cs : List Char) : Option (List Item × List Char) := do
  match ← skipSpace cs with
  | ']' :: rest => return ([], rest)
  | rest =>
    let (v, rest) ← value rest
    readMoreItems value (rest.length + 1) [v] rest

/-- The entries of an inline table that has at least one more, and its end. -/
def readInline (total : Nat) (value : Reader Item) :
    (fuel : Nat) → (taken : Entries) → Reader Entries
  | 0, _, _ => none
  | fuel + 1, taken, cs => do
    let ((path, key), rest) ← readKey total maxDepth cs
    match rest with
    | '=' :: rest =>
      let (v, rest) ← value (skipBlanks rest)
      let taken ← addEntry path key v taken
      match skipBlanks rest with
      | ',' :: rest => readInline total value fuel taken rest
      | '\x7d' :: rest => return (taken, rest)
      | _ => none
    | _ => none

/-- A value within which brackets and braces are nested no deeper than a budget. -/
def readValue (total : Nat) : (budget : Nat) → Reader Item
  | budget, cs =>
    match cs, budget with
    | '[' :: rest, budget + 1 => do
      let (vs, after) ← readItems (readValue total budget) rest
      return (.array vs (spanBetween total cs after), after)
    | '\x7b' :: rest, budget + 1 =>
      match skipBlanks rest with
      | '\x7d' :: after => return (.inlineTable [] (spanBetween total cs after), after)
      | rest => do
        let (es, after) ← readInline total (readValue total budget) (rest.length + 1) [] rest
        return (.inlineTable es (spanBetween total cs after), after)
    | cs, _ => do
      let (s, after) ← readScalar cs
      return (.scalar s (spanBetween total cs after), after)

/-! ### Lines -/

/-- A header in brackets; `repeated` says whether they are doubled. -/
def readHeader (total : Nat) (d : Draft) (cs : List Char) : Option (Draft × List Char) := do
  match cs with
  | '[' :: '[' :: rest =>
    let ((parents, key), rest) ← readKey total maxDepth rest
    match rest with
    | ']' :: ']' :: after =>
      let d ← d.openRepeated parents key (spanBetween total cs after)
      return (d, ← lineEnd? after)
    | _ => none
  | '[' :: rest =>
    let ((parents, key), rest) ← readKey total maxDepth rest
    match rest with
    | ']' :: after =>
      let d ← d.openTable parents key (spanBetween total cs after)
      return (d, ← lineEnd? after)
    | _ => none
  | _ => none

/-- An entry and the end of its line. -/
def readEntry (total : Nat) (d : Draft) (cs : List Char) : Option (Draft × List Char) := do
  let ((path, key), rest) ← readKey total maxDepth cs
  match rest with
  | '=' :: rest =>
    let (v, rest) ← readValue total maxDepth (skipBlanks rest)
    let d ← d.add path key v
    return (d, ← lineEnd? rest)
  | _ => none

/-- The lines of a text, up to its end. -/
def readDocument (total : Nat) : (fuel : Nat) → Draft → List Char → Option Draft
  | 0, _, _ => none
  | fuel + 1, d, cs =>
    match skipBlanks cs with
    | [] => some d
    | '#' :: rest => (lineEnd? ('#' :: rest)).bind (readDocument total fuel d)
    | '[' :: rest =>
      (readHeader total d ('[' :: rest)).bind fun (d, rest) => readDocument total fuel d rest
    | c :: rest =>
      if c = '\n' || c = '\r' then (newline? (c :: rest)).bind (readDocument total fuel d)
      else (readEntry total d (c :: rest)).bind fun (d, rest) => readDocument total fuel d rest

/-- The entries of a text at the top level. A byte order mark at its front is passed over. -/
def read (text : String) : Option Entries :=
  let cs := text.toList
  let total := cs.length
  let cs' := match cs with
    | '\uFEFF' :: rest => rest
    | cs => cs
  (readDocument total (total + 1) .empty cs').bind Draft.close

end Outline.Toml
