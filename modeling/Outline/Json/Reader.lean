import Outline.Json.Text
import Outline.Json.Number

/-!
# Reading JSON

`readValue` reads a value whose brackets are nested no deeper than a budget. Arrays and objects
are read by two loops, `readItems` and `readMembers`, which take the reader of their contents as
an argument, so that a reader for a special kind of content can use them too. Faults of such a
reader may have more causes than those of JSON; `lift` says how the latter are among them.

Since no loop takes more steps than there are characters, all of them get the same fuel: a number
above the length of the whole text, which is counted once.
-/

namespace Outline.Json

/-- How many brackets can be open at once. -/
def maxOpen : Nat := 127

/-! ### Between the items of an array -/

/-- Go to the next item of an array, or behind its end. -/
def nextItem (first : Bool) : Reader SyntaxError Bool := fun cs =>
  match skipBlanks cs with
  | [] => .error (.next .eofList [])
  | ']' :: rest => .ok (false, rest)
  | c :: rest =>
    if first then .ok (true, c :: rest)
    else if c = ',' then
      match skipBlanks rest with
      | [] => .error (.next .eofValue [])
      | ']' :: rest => .error (.next .trailingComma (']' :: rest))
      | rest => .ok (true, rest)
    else .error (.next .expectedListEnd (c :: rest))

/-- The items of an array up to its end. Each item needs one unit of fuel, and so does the end. -/
def readItems {ε α : Type} (lift : SyntaxError → ε) (item : Reader ε α) :
    (fuel : Nat) → (first : Bool) → (taken : List α) → Reader ε (List α)
  | 0, _, _, cs => .error (.here (lift .eofList) cs)
  | fuel + 1, first, taken, cs =>
    match nextItem first cs with
    | .error e => .error (e.map lift)
    | .ok (false, rest) => .ok (taken.reverse, rest)
    | .ok (true, rest) =>
      match item rest with
      | .error e => .error e
      | .ok (v, rest) => readItems lift item fuel false (v :: taken) rest

/-- An array after its opening bracket. -/
def readArray {ε α : Type} (lift : SyntaxError → ε) (item : Reader ε α) (fuel : Nat) :
    Reader ε (List α) :=
  readItems lift item fuel true []

/-! ### Between the members of an object -/

/-- The name of the next member of an object, or nothing behind its end. -/
def nextKey (fuel : Nat) (first : Bool) : Reader SyntaxError (Option String) := fun cs =>
  match skipBlanks cs with
  | [] => .error (.next .eofObject [])
  | '\x7d' :: rest => .ok (none, rest)
  | c :: rest =>
    if first then
      if c = '"' then do
        let (k, rest) ← readString fuel rest
        return (some k, rest)
      else .error (.next .keyNotString (c :: rest))
    else if c = ',' then
      match skipBlanks rest with
      | [] => .error (.next .eofValue [])
      | '"' :: rest => do
        let (k, rest) ← readString fuel rest
        return (some k, rest)
      | '\x7d' :: rest => .error (.next .trailingComma ('\x7d' :: rest))
      | rest => .error (.next .keyNotString rest)
    else .error (.next .expectedObjectEnd (c :: rest))

/-- The colon after the name of a member. -/
def readColon (cs : List Char) : Except (Fault SyntaxError) (List Char) :=
  match skipBlanks cs with
  | [] => .error (.next .eofObject [])
  | ':' :: rest => .ok rest
  | rest => .error (.next .expectedColon rest)

/-- The members of an object up to its end. Each member needs one unit of fuel, and so does the
end; `total` is the fuel for the names. -/
def readMembers {α : Type} (item : Reader SyntaxError α) (total : Nat) :
    (fuel : Nat) → (first : Bool) → (taken : List (String × α)) →
      Reader SyntaxError (List (String × α))
  | 0, _, _, cs => .error (.here .eofObject cs)
  | fuel + 1, first, taken, cs =>
    match nextKey total first cs with
    | .error e => .error e
    | .ok (none, rest) => .ok (taken.reverse, rest)
    | .ok (some k, rest) =>
      match readColon rest with
      | .error e => .error e
      | .ok rest =>
        match item rest with
        | .error e => .error e
        | .ok (v, rest) => readMembers item total fuel false ((k, v) :: taken) rest

/-- An object after its opening bracket. -/
def readObject {α : Type} (item : Reader SyntaxError α) (fuel : Nat) :
    Reader SyntaxError (List (String × α)) :=
  readMembers item fuel fuel true []

/-! ### Values -/

/-- The letters of a word, where `expected` are those still to come. -/
def readWord : (expected : List Char) → List Char → Except (Fault SyntaxError) (List Char)
  | [], cs => .ok cs
  | _ :: _, [] => .error (.here .eofValue [])
  | e :: es, c :: cs => if c = e then readWord es cs else .error (.next .expectedIdent (c :: cs))

/-- A value without brackets, at the front of the text. -/
def readScalar (fuel : Nat) : Reader SyntaxError Value
  | [] => .error (.next .eofValue [])
  | c :: rest =>
    if c = 'n' then (readWord ['u', 'l', 'l'] rest).map fun rest => (.null, rest)
    else if c = 't' then (readWord ['r', 'u', 'e'] rest).map fun rest => (.bool true, rest)
    else if c = 'f' then (readWord ['a', 'l', 's', 'e'] rest).map fun rest => (.bool false, rest)
    else if c = '"' then (readString fuel rest).map fun (s, rest) => (.string s, rest)
    else if c = '-' then (readNumber true rest).map fun (n, rest) => (.number n, rest)
    else if c.isDigit then (readNumber false (c :: rest)).map fun (n, rest) => (.number n, rest)
    else .error (.next .expectedValue (c :: rest))

/-- A value, after blanks, within which at most `budget` brackets are open at once. -/
def readValue (fuel : Nat) : (budget : Nat) → Reader SyntaxError Value
  | 0, cs =>
    match skipBlanks cs with
    | '[' :: rest => .error (.next .recursionLimit ('[' :: rest))
    | '\x7b' :: rest => .error (.next .recursionLimit ('\x7b' :: rest))
    | rest => readScalar fuel rest
  | budget + 1, cs =>
    match skipBlanks cs with
    | '[' :: rest =>
      (readArray id (readValue fuel budget) fuel rest).map fun (vs, rest) => (.array vs, rest)
    | '\x7b' :: rest =>
      (readObject (readValue fuel budget) fuel rest).map fun (ms, rest) => (.object ms, rest)
    | rest => readScalar fuel rest

/-- Only blanks may follow the value of a text. -/
def readEnd (cs : List Char) : Except (Fault SyntaxError) Unit :=
  match skipBlanks cs with
  | [] => .ok ()
  | rest => .error (.next .trailingCharacters rest)

/-- The value of a whole text. -/
def read (text : String) : Except (Fault SyntaxError) Value := do
  let cs := text.toList
  let (v, rest) ← readValue (cs.length + 1) maxOpen cs
  readEnd rest
  return v

end Outline.Json
