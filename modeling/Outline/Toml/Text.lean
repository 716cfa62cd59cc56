import Outline.Toml.Value

/-!
# Blanks, comments and strings in TOML

Strings are written between quotes, with escapes, or between apostrophes, without; three of either
enclose a string that may run over several lines.
-/

namespace Outline.Toml

/-! ### Blanks and comments -/

/-- Space and tab. -/
def isBlank (c : Char) : Bool := c = ' ' || c = '\t'

/-- The text without the blanks at its front. -/
def skipBlanks (cs : List Char) : List Char := cs.dropWhile isBlank

/-- Characters that may stand in comments: all but the controls, of which a tab is let through. -/
def isPlain (c : Char) : Bool := c = '\t' || (c.toNat ≥ 32 && c.toNat ≠ 127)

/-- The text behind the line break at its front. -/
def newline? : List Char → Option (List Char)
  | '\n' :: rest => some rest
  | '\r' :: '\n' :: rest => some rest
  | _ => none

/-- The text without the comment at its front. -/
def skipComment : List Char → List Char
  | '#' :: rest => rest.dropWhile isPlain
  | rest => rest

/-- The end of a line: blanks, a comment, and a line break or the end of the text. -/
def lineEnd? (cs : List Char) : Option (List Char) :=
  match skipComment (skipBlanks cs) with
  | [] => some []
  | rest => newline? rest

/-- Blanks, line breaks and comments that end in line breaks. -/
def skipLines : (fuel : Nat) → List Char → Option (List Char)
  | 0, cs => some cs
  | fuel + 1, cs =>
    match skipBlanks cs with
    | '#' :: rest => (newline? (rest.dropWhile isPlain)).bind (skipLines fuel)
    | '\n' :: rest => skipLines fuel rest
    | '\r' :: rest => (newline? ('\r' :: rest)).bind (skipLines fuel)
    | rest => some rest

/-- Blanks, line breaks and comments within brackets. -/
def skipSpace (cs : List Char) : Option (List Char) := skipLines (cs.length + 1) cs

/-! ### Strings -/

/-- The value of a digit to base sixteen. -/
def hexValue (c : Char) : Option Nat :=
  if c.isDigit then some (c.toNat - 48)
  else if 'a' ≤ c && c ≤ 'f' then some (c.toNat - 87)
  else if 'A' ≤ c && c ≤ 'F' then some (c.toNat - 55)
  else none

/-- The character given by so many digits. Surrogates and numbers beyond the last character are
refused. -/
def readCode (digits : Nat) (cs : List Char) : Option (Char × List Char) := do
  let ds ← (cs.take digits).mapM hexValue
  if ds.length = digits then
    let n := ds.foldl (fun n d => n * 16 + d) 0
    if n.isValidChar then some (Char.ofNat n, cs.drop digits) else none
  else none

/-- The character of an escape, after its backslash. -/
def readEscape : Reader Char
  | 'b' :: rest => some ('\x08', rest)
  | 't' :: rest => some ('\t', rest)
  | 'n' :: rest => some ('\n', rest)
  | 'f' :: rest => some ('\x0c', rest)
  | 'r' :: rest => some ('\r', rest)
  | '"' :: rest => some ('"', rest)
  | '\\' :: rest => some ('\\', rest)
  | 'u' :: rest => readCode 4 rest
  | 'U' :: rest => readCode 8 rest
  | _ => none

/-- The rest of a string of one line between quotes; `taken` holds what was read, last first. -/
def readBasic : (fuel : Nat) → (taken : List Char) → Reader String
  | 0, _, _ => none
  | _, _, [] => none
  | fuel + 1, taken, c :: rest =>
    if c = '"' then some (String.ofList taken.reverse, rest)
    else if c = '\\' then
      match readEscape rest with
      | some (e, rest) => readBasic fuel (e :: taken) rest
      | none => none
    else if isPlain c then readBasic fuel (c :: taken) rest
    else none

/-- The rest of a string of one line between apostrophes. -/
def readLiteral : (taken : List Char) → Reader String
  | _, [] => none
  | taken, c :: rest =>
    if c = '\x27' then some (String.ofList taken.reverse, rest)
    else if isPlain c then readLiteral (c :: taken) rest
    else none

/-- The end of a string of several lines: three quotes, before which up to two more belong to the
string. The answer is how many those are. -/
def closing? (quote : Char) (cs : List Char) : Option (Nat × List Char) :=
  let run := (cs.takeWhile (· == quote)).length
  if run < 3 then none else some (min (run - 3) 2, cs.drop (min run 5))

/-- Behind a backslash, the blanks to the end of the line and all blank lines that follow. -/
def skipJoined (cs : List Char) : Option (List Char) :=
  (newline? (skipBlanks cs)).map fun rest =>
    dropBlankLines (rest.length + 1) rest
where
  /-- Blanks and line breaks. -/
  dropBlankLines : Nat → List Char → List Char
    | 0, cs => cs
    | fuel + 1, cs =>
      let cs := skipBlanks cs
      match newline? cs with
      | some rest => dropBlankLines fuel rest
      | none => cs

/-- The rest of a string of several lines; `escapes` says whether a backslash has a meaning. -/
def readLines (quote : Char) (escapes : Bool) : (fuel : Nat) → (taken : List Char) → Reader String
  | 0, _, _ => none
  | _, _, [] => none
  | fuel + 1, taken, c :: rest =>
    match closing? quote (c :: rest) with
    | some (n, rest) =>
      some (String.ofList (List.replicate n quote ++ taken).reverse, rest)
    | none =>
      match newline? (c :: rest) with
      | some rest => readLines quote escapes fuel ('\n' :: taken) rest
      | none =>
        if escapes && c = '\\' then
          match skipJoined rest with
          | some rest => readLines quote escapes fuel taken rest
          | none =>
            match readEscape rest with
            | some (e, rest) => readLines quote escapes fuel (e :: taken) rest
            | none => none
        else if isPlain c then readLines quote escapes fuel (c :: taken) rest
        else none

/-- The text without the line break at its front, if there is one. -/
def dropNewline (cs : List Char) : List Char := (newline? cs).getD cs

/-- A string of one line. -/
def readLineString : Reader String
  | '"' :: rest => readBasic (rest.length + 1) [] rest
  | '\x27' :: rest => readLiteral [] rest
  | _ => none

/-- A string. -/
def readString : Reader String
  | '"' :: '"' :: '"' :: rest =>
    let rest := dropNewline rest
    readLines '"' true (rest.length + 1) [] rest
  | '\x27' :: '\x27' :: '\x27' :: rest =>
    let rest := dropNewline rest
    readLines '\x27' false (rest.length + 1) [] rest
  | cs => readLineString cs

end Outline.Toml
