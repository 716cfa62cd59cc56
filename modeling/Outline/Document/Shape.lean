import Outline.Node
import Outline.Json.Value
import Outline.Text.Quoted

/-!
# The shape of a tree document

A tree document is a JSON array of nodes. A node is written in one of two ways:

* an object with the members `kind` (`leaf` or `group`), `name`, and if wanted `value` and, for a
  group, `children`, in any order; other members are passed over;
* an array of the kind, the name and, as far as wanted, the value and the children of a group.

The value `null` means no value. Below another node the kind may also be given by its number, zero
for a leaf and one for a group.

`nodeOf` gives the node that a JSON value stands for, or the first cause, in the order in which
the parts are looked at, why it stands for none.
-/

namespace Outline.Document

open Outline.Json (Value Number)

/-- What was found where something else is wanted. -/
inductive Found where
  /-- The value `null`. -/
  | null
  /-- A truth value. -/
  | bool (b : Bool)
  /-- A number. -/
  | number (n : Number)
  /-- A text. -/
  | string (s : String)
  /-- An array. -/
  | sequence
  /-- An object. -/
  | map
deriving DecidableEq

namespace Found

/-- What a value is found to be. -/
def ofValue : Value → Found
  | .null => null
  | .bool b => bool b
  | .number n => number n
  | .string s => string s
  | .array _ => sequence
  | .object _ => map

/-- The wording of what was found. -/
def message : Found → String
  | null => "null"
  | bool b => "boolean `" ++ toString b ++ "`"
  | number (.natural n) => "integer `" ++ toString n ++ "`"
  | number (.negative n) => "integer `-" ++ toString n ++ "`"
  | number (.real sign x) => "floating point `" ++ DecimalStyle.compact.signed sign x ++ "`"
  | string s => "string " ++ Text.quote s
  | sequence => "sequence"
  | map => "map"

end Found

/-- What is wanted at a place. -/
inductive Wanted where
  /-- A list of nodes. -/
  | sequence
  /-- A node. -/
  | node
  /-- A kind. -/
  | kind
  /-- A text. -/
  | text
deriving DecidableEq

/-- The wording of what is wanted. -/
def Wanted.message : Wanted → String
  | sequence => "a sequence"
  | node => "internally tagged enum NodeKind"
  | kind => "variant identifier"
  | text => "a string"

/-- The two kinds of nodes. -/
inductive Kind where
  /-- The kind of leaves. -/
  | leaf
  /-- The kind of groups. -/
  | group
deriving DecidableEq

namespace Kind

/-- The name of the kind in messages. -/
def label : Kind → String
  | leaf => "Leaf"
  | group => "Group"

/-- How many parts follow the kind when a node is written as an array. -/
def partCount : Kind → Nat
  | leaf => 2
  | group => 3

end Kind

/-- The parts of a node that are told apart by name. -/
inductive Field where
  /-- The kind. -/
  | kind
  /-- The name. -/
  | name
  /-- The value. -/
  | value
  /-- The children. -/
  | children
deriving DecidableEq

/-- The name of the member that holds the part. -/
def Field.key : Field → String
  | kind => "kind"
  | name => "name"
  | value => "value"
  | children => "children"

/-- Why a JSON value is not the node that was wanted. -/
inductive ShapeError where
  /-- One thing was found where another is wanted. -/
  | mismatch (found : Found) (wanted : Wanted)
  /-- A part is missing. -/
  | missing (field : Field)
  /-- A part is given twice. -/
  | duplicate (field : Field)
  /-- There is no such kind. -/
  | unknownKind (name : String)
  /-- There is no kind of this number. -/
  | unknownKindNumber (n : Nat)
  /-- An array ends before the name. -/
  | tooShort (kind : Kind)
  /-- An array has parts to spare. -/
  | tooLong (given taken : Nat)
deriving DecidableEq

/-- The wording of a cause. -/
def ShapeError.message : ShapeError → String
  | mismatch f w => "invalid type: " ++ f.message ++ ", expected " ++ w.message
  | missing f => "missing field `" ++ f.key ++ "`"
  | duplicate f => "duplicate field `" ++ f.key ++ "`"
  | unknownKind s => "unknown variant `" ++ s ++ "`, expected `leaf` or `group`"
  | unknownKindNumber n =>
    "invalid value: integer `" ++ toString n ++ "`, expected variant index 0 <= i < 2"
  | tooShort k =>
    "invalid length 0, expected struct variant NodeKind::" ++ k.label ++ " with " ++
      toString k.partCount ++ " elements"
  | tooLong given taken =>
    "invalid length " ++ toString given ++ ", expected " ++ toString taken ++
      " elements in sequence"

/-! ### Parts -/

/-- The kind that a value stands for; `numbered` says whether it may be given by its number. -/
def kindOf (numbered : Bool) : Value → Except ShapeError Kind
  | .string s =>
    if s = "leaf" then .ok .leaf
    else if s = "group" then .ok .group
    else .error (.unknownKind s)
  | .number (.natural n) =>
    if !numbered then .error (.mismatch (.number (.natural n)) .kind)
    else if n = 0 then .ok .leaf
    else if n = 1 then .ok .group
    else .error (.unknownKindNumber n)
  | v => .error (.mismatch (.ofValue v) .kind)

/-- The kind among the members of an object; `known` is the one met so far. -/
def kindOfMembers (numbered : Bool) (known : Option Kind) :
    List (String × Value) → Except ShapeError Kind
  | [] =>
    match known with
    | some k => .ok k
    | none => .error (.missing .kind)
  | (key, v) :: ms =>
    if key = Field.kind.key then
      match known with
      | some _ => .error (.duplicate .kind)
      | none =>
        match kindOf numbered v with
        | .ok k => kindOfMembers numbered (some k) ms
        | .error e => .error e
    else kindOfMembers numbered known ms

/-- The text that a value stands for. -/
def textOf : Value → Except ShapeError String
  | .string s => .ok s
  | v => .error (.mismatch (.ofValue v) .text)

/-- The text that a value stands for, if any. -/
def optionalTextOf : Value → Except ShapeError (Option String)
  | .null => .ok none
  | v => (textOf v).map some

/-- The parts of a node met so far. -/
structure Parts where
  /-- The name. -/
  name : Option String := none
  /-- The value, which may be given as none. -/
  value : Option (Option String) := none
  /-- The children. -/
  children : Option (List Node) := none

/-- The node with these parts. Without a name there is none. -/
def Parts.toNode (k : Kind) (p : Parts) : Except ShapeError Node :=
  match p.name with
  | none => .error (.missing .name)
  | some n =>
    let v := p.value.getD none
    match k with
    | .leaf => .ok (.leaf n v)
    | .group => .ok (.group n v (p.children.getD []))

/-! ### Nodes -/

mutual

/-- The node that a value stands for; `numbered` says whether its kind may be given by number. -/
def nodeOf (numbered : Bool) : Value → Except ShapeError Node
  | .object ms =>
    match kindOfMembers numbered none ms with
    | .error e => .error e
    | .ok k =>
      match partsOf k {} ms with
      | .error e => .error e
      | .ok p => p.toNode k
  | .array [] => .error (.missing .kind)
  | .array (v :: vs) =>
    match kindOf numbered v with
    | .error e => .error e
    | .ok k => nodeOfItems k vs
  | v => .error (.mismatch (.ofValue v) .node)

/-- The parts that the members of an object add to those met so far. -/
def partsOf (k : Kind) (p : Parts) : List (String × Value) → Except ShapeError Parts
  | [] => .ok p
  | (key, v) :: ms =>
    if key = Field.name.key then
      if p.name.isSome then .error (.duplicate .name)
      else
        match textOf v with
        | .error e => .error e
        | .ok s => partsOf k { p with name := some s } ms
    else if key = Field.value.key then
      if p.value.isSome then .error (.duplicate .value)
      else
        match optionalTextOf v with
        | .error e => .error e
        | .ok s => partsOf k { p with value := some s } ms
    else if key = Field.children.key && k = .group then
      if p.children.isSome then .error (.duplicate .children)
      else
        match childrenOf v with
        | .error e => .error e
        | .ok cs => partsOf k { p with children := some cs } ms
    else partsOf k p ms

/-- The node of a kind whose other parts are listed. -/
def nodeOfItems (k : Kind) : List Value → Except ShapeError Node
  | [] => .error (.tooShort k)
  | [name] =>
    match textOf name with
    | .error e => .error e
    | .ok n => Parts.toNode k { name := some n }
  | [name, value] =>
    match textOf name, optionalTextOf value with
    | .error e, _ => .error e
    | _, .error e => .error e
    | .ok n, .ok v => Parts.toNode k { name := some n, value := some v }
  | name :: value :: third :: more =>
    match textOf name, optionalTextOf value with
    | .error e, _ => .error e
    | _, .error e => .error e
    | .ok n, .ok v =>
      match k with
      | .leaf => .error (.tooLong (more.length + 3) k.partCount)
      | .group =>
        match childrenOf third with
        | .error e => .error e
        | .ok cs =>
          if more.isEmpty then .ok (.group n v cs)
          else .error (.tooLong (more.length + 3) k.partCount)

/-- The children that a value stands for. -/
def childrenOf : Value → Except ShapeError (List Node)
  | .array vs => nodesOf vs
  | v => .error (.mismatch (.ofValue v) .sequence)

/-- The nodes that values below another node stand for. -/
def nodesOf : List Value → Except ShapeError (List Node)
  | [] => .ok []
  | v :: vs =>
    match nodeOf true v with
    | .error e => .error e
    | .ok n =>
      match nodesOf vs with
      | .error e => .error e
      | .ok ns => .ok (n :: ns)

end

end Outline.Document
