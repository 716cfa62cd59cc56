/-!
# Faults in a JSON text

A fault is a cause together with a place in the text. While a text is read the place is told by
what is left of it; `Fault.locate` turns this into line and column once the whole text is known.

Columns count bytes. A fault is placed behind the last byte that was taken, or behind one or more
bytes beyond it (`Fault.beyond`), and a line feed among them begins a new line at column zero.
-/

namespace Outline.Json

/-- Why a text is not JSON. -/
inductive SyntaxError where
  /-- The text ends where a value is due, or within one. -/
  | eofValue
  /-- The text ends within an array. -/
  | eofList
  /-- The text ends within an object. -/
  | eofObject
  /-- The text ends within a string. -/
  | eofString
  /-- No value begins like this. -/
  | expectedValue
  /-- A misspelt `true`, `false` or `null`. -/
  | expectedIdent
  /-- The colon after the name of a member is missing. -/
  | expectedColon
  /-- An array neither goes on nor ends. -/
  | expectedListEnd
  /-- An object neither goes on nor ends. -/
  | expectedObjectEnd
  /-- A comma that nothing follows. -/
  | trailingComma
  /-- Something follows the value. -/
  | trailingCharacters
  /-- The name of a member is not a string. -/
  | keyNotString
  /-- A number that is not written as one. -/
  | invalidNumber
  /-- A number beyond the largest one. -/
  | numberOutOfRange
  /-- An escape that does not exist. -/
  | invalidEscape
  /-- A control character within a string. -/
  | controlCharacter
  /-- Half a surrogate pair that no escape follows. -/
  | surrogateEnd
  /-- Half a surrogate pair without its other half. -/
  | loneSurrogate
  /-- Too many open brackets. -/
  | recursionLimit
deriving DecidableEq

/-- The wording of a cause. -/
def SyntaxError.message : SyntaxError → String
  | eofValue => "EOF while parsing a value"
  | eofList => "EOF while parsing a list"
  | eofObject => "EOF while parsing an object"
  | eofString => "EOF while parsing a string"
  | expectedValue => "expected value"
  | expectedIdent => "expected ident"
  | expectedColon => "expected `:`"
  | expectedListEnd => "expected `,` or `]`"
  | expectedObjectEnd => "expected `,` or `\x7d`"
  | trailingComma => "trailing comma"
  | trailingCharacters => "trailing characters"
  | keyNotString => "key must be a string"
  | invalidNumber => "invalid number"
  | numberOutOfRange => "number out of range"
  | invalidEscape => "invalid escape"
  | controlCharacter => "control character (\\u0000-\\u001F) found while parsing a string"
  | surrogateEnd => "unexpected end of hex escape"
  | loneSurrogate => "lone leading surrogate in hex escape"
  | recursionLimit => "recursion limit exceeded"

/-- A place in a text: the line, counted from one, and the bytes taken on it. -/
structure Place where
  /-- The line. -/
  line : Nat
  /-- The bytes taken on the line. -/
  column : Nat
deriving DecidableEq

namespace Place

/-- The beginning of a text. -/
def start : Place := ⟨1, 0⟩

/-- The place behind one more character. -/
def step (p : Place) (c : Char) : Place :=
  if c = '\n' then ⟨p.line + 1, 0⟩ else ⟨p.line, p.column + c.utf8Size⟩

/-- The place so many bytes further on, within the text that follows. -/
def skip (p : Place) : Nat → List Char → Place
  | _, [] => p
  | bytes, c :: cs =>
    if bytes = 0 then p
    else if c.utf8Size ≤ bytes then (p.step c).skip (bytes - c.utf8Size) cs
    else ⟨p.line, p.column + bytes⟩

end Place

/-- A cause and where it shows. -/
structure Fault (ε : Type) where
  /-- What is wrong. -/
  cause : ε
  /-- What is left of the text. -/
  rest : List Char
  /-- So many bytes of the rest are taken along. -/
  beyond : Nat

namespace Fault

variable {ε φ : Type}

/-- A fault behind what was taken. -/
def here (cause : ε) (rest : List Char) : Fault ε := ⟨cause, rest, 0⟩

/-- A fault at the next byte. -/
def next (cause : ε) (rest : List Char) : Fault ε := ⟨cause, rest, 1⟩

/-- The same fault with its cause in other words. -/
def map (f : ε → φ) (x : Fault ε) : Fault φ := ⟨f x.cause, x.rest, x.beyond⟩

/-- Line and column of a fault in the whole text. -/
def locate (text : List Char) (x : Fault ε) : Place :=
  ((text.take (text.length - x.rest.length)).foldl Place.step Place.start).skip x.beyond x.rest

end Fault

/-- A reader takes a value from the front of a text and leaves the rest. -/
abbrev Reader (ε α : Type) := List Char → Except (Fault ε) (α × List Char)

/-- Space, tab, line feed and carriage return, which may stand between any two tokens. -/
def isBlank (c : Char) : Bool := c = ' ' || c = '\n' || c = '\t' || c = '\r'

/-- The text without the blanks at its front. -/
def skipBlanks (cs : List Char) : List Char := cs.dropWhile isBlank

end Outline.Json
