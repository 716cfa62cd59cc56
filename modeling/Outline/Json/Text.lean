import Outline.Json.Fault

/-!
# Strings in JSON

`written` shows a text between double quotes with the escapes that JSON asks for and no others.
`readString` reads a string whose opening quote was already taken: escapes may name any character,
those beyond U+FFFF by a pair of surrogates.
-/

namespace Outline.Json

/-! ### Writing -/

/-- The lower case digit to base sixteen, for a number below sixteen. -/
def hexDigit (n : Nat) : Char := if n < 10 then Char.ofNat (48 + n) else Char.ofNat (87 + n)

/-- How a character of a string is written. -/
def writtenChar (c : Char) : List Char :=
  if c = '"' then ['\\', '"']
  else if c = '\\' then ['\\', '\\']
  else if c = '\x08' then ['\\', 'b']
  else if c = '\x0c' then ['\\', 'f']
  else if c = '\n' then ['\\', 'n']
  else if c = '\r' then ['\\', 'r']
  else if c = '\t' then ['\\', 't']
  else if c.toNat < 32 then
    ['\\', 'u', '0', '0', hexDigit (c.toNat / 16), hexDigit (c.toNat % 16)]
  else [c]

/-- A string between its quotes. -/
def written (s : String) : List Char := '"' :: s.toList.flatMap writtenChar ++ ['"']

/-! ### Reading -/

/-- The value of a digit to base sixteen. -/
def hexValue (c : Char) : Option Nat :=
  if c.isDigit then some (c.toNat - 48)
  else if 'a' ≤ c && c ≤ 'f' then some (c.toNat - 87)
  else if 'A' ≤ c && c ≤ 'F' then some (c.toNat - 55)
  else none

/-- The number of bytes of a text. -/
def byteCount (cs : List Char) : Nat := cs.foldl (fun n c => n + c.utf8Size) 0

/-- The four digits of an escape. Four bytes are taken whatever they hold. -/
def readHex (cs : List Char) : Except (Fault SyntaxError) (Nat × List Char) :=
  match cs with
  | a :: b :: c :: d :: rest =>
    match hexValue a, hexValue b, hexValue c, hexValue d with
    | some a, some b, some c, some d => .ok (((a * 16 + b) * 16 + c) * 16 + d, rest)
    | _, _, _, _ => .error ⟨.invalidEscape, cs, 4⟩
  | _ => .error (if byteCount cs < 4 then .here .eofString [] else ⟨.invalidEscape, cs, 4⟩)

/-- The second half of a surrogate pair, after the first. -/
def readTrailing (lead : Nat) (cs : List Char) : Except (Fault SyntaxError) (Char × List Char) :=
  match cs with
  | [] => .error (.here .eofString [])
  | ['\\'] => .error (.here .eofString [])
  | '\\' :: 'u' :: rest => do
    let (trail, rest) ← readHex rest
    if trail < 0xDC00 || trail > 0xDFFF then throw (.here .loneSurrogate rest)
    return (Char.ofNat (0x10000 + (lead - 0xD800) * 0x400 + (trail - 0xDC00)), rest)
  | '\\' :: rest => .error (.next .surrogateEnd rest)
  | cs => .error (.next .surrogateEnd cs)

/-- The character that an escape stands for, after its backslash. -/
def readEscape (cs : List Char) : Except (Fault SyntaxError) (Char × List Char) :=
  match cs with
  | [] => .error (.here .eofString [])
  | c :: rest =>
    if c = '"' || c = '\\' || c = '/' then .ok (c, rest)
    else if c = 'b' then .ok ('\x08', rest)
    else if c = 'f' then .ok ('\x0c', rest)
    else if c = 'n' then .ok ('\n', rest)
    else if c = 'r' then .ok ('\r', rest)
    else if c = 't' then .ok ('\t', rest)
    else if c = 'u' then do
      let (n, rest) ← readHex rest
      if 0xDC00 ≤ n && n ≤ 0xDFFF then throw (.here .loneSurrogate rest)
      if 0xD800 ≤ n && n ≤ 0xDBFF then readTrailing n rest
      else return (Char.ofNat n, rest)
    else .error (.next .invalidEscape cs)

/-- The rest of a string, up to its closing quote. One character is read for each unit of fuel,
and `taken` holds those read so far, last first. -/
def readChars : (fuel : Nat) → (taken : List Char) → Reader SyntaxError String
  | 0, _, cs => .error (.here .eofString cs)
  | _, _, [] => .error (.here .eofString [])
  | fuel + 1, taken, c :: rest =>
    if c = '"' then .ok (String.ofList taken.reverse, rest)
    else if c = '\\' then
      match readEscape rest with
      | .ok (c, rest) => readChars fuel (c :: taken) rest
      | .error e => .error e
    else if c.toNat < 32 then .error (.next .controlCharacter (c :: rest))
    else readChars fuel (c :: taken) rest

/-- A string after its opening quote. The fuel must exceed the length of the text. -/
def readString (fuel : Nat) : Reader SyntaxError String := readChars fuel []

end Outline.Json
