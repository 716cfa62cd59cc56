import Outline.Environment
import Outline.Text.Alphanumeric
import Outline.Text.Natural

/-!
# What the log lets through

A filter is a list of directives, each for the targets that begin with a given text, or for all
targets. The first directive that applies to a record decides about it, and a record to which none
applies is kept out. Since longer targets stand first, the most specific directive decides.

A filter is written as directives between commas. If one of them cannot be read, no part of the
text is used.
-/

namespace Outline.Log

/-! ### Levels -/

/-- How grave a record is. -/
inductive Level where
  /-- Something failed. -/
  | error
  /-- Something is not as it was asked for. -/
  | warn
  /-- What the program does, in large. -/
  | info
  /-- What the program does, in detail. -/
  | debug
  /-- What the program does, step by step. -/
  | trace
deriving DecidableEq

namespace Level

/-- All levels, the gravest first. -/
def all : List Level := [error, warn, info, debug, trace]

/-- The place among all levels, counted from one. -/
def rank : Level → Nat
  | error => 1
  | warn => 2
  | info => 3
  | debug => 4
  | trace => 5

/-- The name of the level in a filter. -/
def name : Level → String
  | error => "error"
  | warn => "warn"
  | info => "info"
  | debug => "debug"
  | trace => "trace"

/-- The name of the level in the log. -/
def label : Level → String
  | error => "ERROR"
  | warn => "WARN"
  | info => "INFO"
  | debug => "DEBUG"
  | trace => "TRACE"

end Level

/-- The least grave level that is let through, or none if no level is. -/
abbrev Limit := Option Level

namespace Limit

/-- Whether a level is let through. -/
def allows (m : Limit) (l : Level) : Bool :=
  match m with
  | some k => l.rank ≤ k.rank
  | none => false

/-- All limits. -/
def all : List Limit := none :: Level.all.map some

/-- The rank of the level; zero lets nothing through. -/
def rank : Limit → Nat
  | some l => l.rank
  | none => 0

/-- The name of the limit. -/
def name : Limit → String
  | some l => l.name
  | none => "off"

/-- The limit that a text stands for: a rank, or a name in letters of either case. -/
def ofText? (cs : List Char) : Option Limit :=
  match Text.natural? cs with
  | some n => all.find? fun m => m.rank == n
  | none => all.find? fun m => m.name.toList == cs.map Char.toLower

end Limit

/-! ### Directives -/

/-- A limit for the targets that begin with a text, or for all targets. -/
structure Directive where
  /-- What a target has to begin with. -/
  target : Option String
  /-- What is let through. -/
  limit : Limit
deriving DecidableEq

namespace Directive

/-- The directive as it is written. -/
def text (d : Directive) : String :=
  match d.target with
  | some t => t ++ "=" ++ d.limit.name
  | none => d.limit.name

/-- Whether the directive is one for a target. -/
def appliesTo (d : Directive) (target : String) : Bool :=
  match d.target with
  | some t => t.toList.isPrefixOf target.toList
  | none => true

/-- Whether a directive for the first target stands before one for the second: longer targets
first, and those of one length in falling order. -/
def precedes : Option String → Option String → Bool
  | some s, some t =>
    t.utf8ByteSize < s.utf8ByteSize || (s.utf8ByteSize == t.utf8ByteSize && decide (t < s))
  | some _, none => true
  | none, _ => false

/-- Whether a directive can begin with this character. -/
def canBegin (c : Char) : Bool := Text.alphanumeric.has c || ['-', ':', '_'].contains c

/-- The directive that a text stands for. Without a level, everything is let through. Blanks are
not skipped but belong to a bare target. -/
def ofText? (cs : List Char) : Option Directive :=
  let target := cs.takeWhile (· != '=')
  let first := (Text.trim cs).head?
  if !first.any canBegin || target.contains '[' then none
  else
    match cs.dropWhile (· != '=') with
    | [] =>
      match Limit.ofText? cs with
      | some m => some ⟨none, m⟩
      | none => some ⟨some (String.ofList cs), some .trace⟩
    | _ :: level =>
      if first != cs.head? then none
      else if level.isEmpty then some ⟨some (String.ofList target), some .trace⟩
      else (Limit.ofText? level).map fun m => ⟨some (String.ofList target), m⟩

end Directive

/-! ### Filters -/

/-- Directives, the most specific first and at most one for each target. -/
structure Filter where
  /-- The directives. -/
  directives : List Directive
deriving DecidableEq

namespace Filter

/-- The directives with one more at its place; one for the same target gives place to it. -/
def insert (d : Directive) : List Directive → List Directive
  | [] => [d]
  | e :: es =>
    if d.target = e.target then d :: es
    else if Directive.precedes d.target e.target then d :: e :: es
    else e :: insert d es

/-- The filter of directives, of which later ones win. -/
def ofDirectives (ds : List Directive) : Filter := ⟨ds.foldl (fun es d => insert d es) []⟩

/-- The filter with one limit for all targets. -/
def ofLimit (m : Limit) : Filter := ofDirectives [⟨none, m⟩]

/-- The parts of a text between commas; there is always one. -/
def pieces : List Char → List (List Char)
  | [] => [[]]
  | c :: cs =>
    if c = ',' then [] :: pieces cs
    else
      match pieces cs with
      | p :: ps => (c :: p) :: ps
      | [] => [[c]]

/-- The filter that a text stands for. The empty text lets errors through. -/
def ofText? (s : String) : Option Filter :=
  if s.isEmpty then some (ofLimit (some .error))
  else ((pieces s.toList).mapM Directive.ofText?).map ofDirectives

/-- The filter as it is written. -/
def text (f : Filter) : String := String.intercalate "," (f.directives.map Directive.text)

/-- Whether a record of this target and level is let through. -/
def allows (f : Filter) (target : String) (l : Level) : Bool :=
  match f.directives.find? fun d => d.appliesTo target with
  | some d => d.limit.allows l
  | none => false

/-- The filter that the environment asks for, or a standard one. -/
def ofEnvironment (e : Environment) (standard : Filter) : Filter :=
  ((e.get? "RUST_LOG").bind ofText?).getD standard

end Filter

end Outline.Log
