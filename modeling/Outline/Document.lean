import Outline.Json.Reader
import Outline.Document.Shape

/-!
# Tree documents

`read` gives the nodes of a document, or the first fault with its place.

The top level nodes are read one after the other, each as a whole: a fault in the JSON of a node
comes before a fault in its shape, and a fault in the shape of a node comes before all faults
behind the node. Only a bad kind of a top level node is reported as soon as it is read, which
`kindFault?` finds out; it plays no part in a document without faults.
-/

namespace Outline.Document

open Outline.Json (Fault Reader Value SyntaxError skipBlanks)

/-- What is wrong with a document. -/
inductive Cause where
  /-- It is not JSON. -/
  | json (e : SyntaxError)
  /-- It is not a list of nodes. -/
  | shape (e : ShapeError)
deriving DecidableEq

/-- The wording of a cause. -/
def Cause.message : Cause → String
  | json e => e.message
  | shape e => e.message

/-- The brackets that can still be open within a top level node. -/
def nodeBudget : Nat := Json.maxOpen - 1

/-! ### Places of faults in the shape -/

/-- Whether a value is written between brackets. -/
def isBracketed : Value → Bool
  | .array _ => true
  | .object _ => true
  | _ => false

/-- Behind the end of the document or the comma that follows a node, if one of them does. -/
def settle (rest : List Char) : List Char :=
  match skipBlanks rest with
  | ']' :: rest => rest
  | ',' :: rest => skipBlanks rest
  | rest => rest

/-- Behind the end of an object, if that comes next. -/
def settleObject (rest : List Char) : List Char :=
  match skipBlanks rest with
  | '\x7d' :: rest => rest
  | rest => rest

/-- The fault of a kind that no node has. -/
def kindValueFault? (fuel : Nat) (cs : List Char) : Option (Fault Cause) :=
  match skipBlanks cs with
  | '[' :: rest => some (.here (.shape (.mismatch .sequence .kind)) ('[' :: rest))
  | '\x7b' :: rest => some (.here (.shape (.mismatch .map .kind)) ('\x7b' :: rest))
  | rest =>
    match Json.readScalar fuel rest with
    | .error _ => none
    | .ok (v, rest) =>
      match kindOf false v with
      | .error e => some (.here (.shape e) rest)
      | .ok _ => none

/-- The fault of a missing, repeated or bad kind among the members of an object, unless its JSON
has a fault before. -/
def memberKindFault? (total : Nat) :
    (fuel : Nat) → (first known : Bool) → List Char → Option (Fault Cause)
  | 0, _, _, _ => none
  | fuel + 1, first, known, cs =>
    match Json.nextKey total first cs with
    | .error _ => none
    | .ok (none, rest) => if known then none else some (.here (.shape (.missing .kind)) rest)
    | .ok (some key, rest) =>
      let isKind := key = Field.kind.key
      if isKind && known then some (.here (.shape (.duplicate .kind)) (settleObject rest))
      else
        match Json.readColon rest with
        | .error _ => none
        | .ok rest =>
          match if isKind then kindValueFault? total rest else none with
          | some f => some f
          | none =>
            match Json.readValue total (nodeBudget - 1) rest with
            | .error _ => none
            | .ok (_, rest) => memberKindFault? total fuel false (known || isKind) rest

/-- The fault of a missing, repeated or bad kind of a top level node, unless its JSON has a fault
before. -/
def kindFault? (fuel : Nat) (cs : List Char) : Option (Fault Cause) :=
  match skipBlanks cs with
  | '\x7b' :: rest => memberKindFault? fuel fuel true false rest
  | '[' :: rest =>
    match Json.nextItem true rest with
    | .error _ => none
    | .ok (false, rest) => some (.here (.shape (.missing .kind)) rest)
    | .ok (true, rest) => kindValueFault? fuel rest
  | _ => none

/-! ### Reading -/

/-- A top level node. -/
def readNode (fuel : Nat) : Reader Cause Node := fun cs =>
  match Json.readValue fuel nodeBudget cs with
  | .error e => .error ((kindFault? fuel cs).getD (e.map .json))
  | .ok (v, rest) =>
    match nodeOf false v with
    | .ok n => .ok (n, rest)
    | .error e =>
      let place := if isBracketed v then settle rest else rest
      .error ((kindFault? fuel cs).getD (.here (.shape e) place))

/-- The nodes of a document. -/
def readNodes (text : List Char) : Except (Fault Cause) (List Node) :=
  let fuel := text.length + 1
  match skipBlanks text with
  | '[' :: rest =>
    match Json.readArray .json (readNode fuel) fuel rest with
    | .error e => .error e
    | .ok (ns, rest) =>
      match Json.readEnd rest with
      | .error e => .error (e.map .json)
      | .ok () => .ok ns
  | '\x7b' :: rest => .error (.here (.shape (.mismatch .map .sequence)) ('\x7b' :: rest))
  | rest =>
    match Json.readScalar fuel rest with
    | .error e => .error (e.map .json)
    | .ok (v, rest) => .error (.here (.shape (.mismatch (.ofValue v) .sequence)) rest)

/-- What is wrong with a document, and where. -/
structure Refusal where
  /-- What is wrong. -/
  cause : Cause
  /-- Where it shows. -/
  place : Json.Place
deriving DecidableEq

/-- One line for the reader of the refusal. -/
def Refusal.message (r : Refusal) : String :=
  r.cause.message ++ " at line " ++ toString r.place.line ++ " column " ++
    toString r.place.column

/-- The nodes of a document, or the first fault with its place. -/
def read (text : String) : Except Refusal (List Node) :=
  match readNodes text.toList with
  | .ok ns => .ok ns
  | .error e => .error ⟨e.cause, e.locate text.toList⟩

end Outline.Document
