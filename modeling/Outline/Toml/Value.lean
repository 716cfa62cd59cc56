import Outline.Number.Shortest

/-!
# TOML values

The tables, arrays and scalars that a TOML text can hold. Keys and values remember where they
stand in the text.
-/

namespace Outline.Toml

/-- A part of a text, from one character up to another, both counted from the beginning. -/
structure Span where
  /-- The first character. -/
  start : Nat
  /-- The character behind the last one. -/
  stop : Nat
deriving DecidableEq

/-- The name of an entry. -/
structure Key where
  /-- The name, without its quotes. -/
  name : String
  /-- Where it stands, with its quotes. -/
  span : Span
deriving DecidableEq

/-- A binary floating point number. -/
inductive FloatValue where
  /-- A finite number with its sign. -/
  | finite (negative : Bool) (magnitude : Binary64)
  /-- An infinity with its sign. -/
  | infinite (negative : Bool)
  /-- No number. -/
  | nan
deriving DecidableEq

/-- The text of a floating point number, without an exponent. -/
def FloatValue.text : FloatValue → String
  | finite negative x => DecimalStyle.plain.signed negative x
  | infinite negative => if negative then "-inf" else "inf"
  | nan => "NaN"

/-- A value without parts. -/
inductive Scalar where
  /-- A whole number of 64 bits. -/
  | integer (n : Int)
  /-- A floating point number. -/
  | float (x : FloatValue)
  /-- A truth value. -/
  | boolean (b : Bool)
  /-- A text. -/
  | string (s : String)
  /-- A date, a time, or both. -/
  | datetime
deriving DecidableEq

/-- How a table came into being. -/
inductive Made where
  /-- By a header or braces of its own. -/
  | explicit
  /-- By the header of a table within it. -/
  | byHeader
  /-- By a dotted key. -/
  | byDots
deriving DecidableEq

/-- What stands under a key. -/
inductive Item where
  /-- A value without parts. -/
  | scalar (s : Scalar) (span : Span)
  /-- An array between brackets. -/
  | array (items : List Item) (span : Span)
  /-- A table between braces. -/
  | inlineTable (entries : List (Key × Item)) (span : Span)
  /-- A table made by headers or dotted keys. -/
  | table (made : Made) (span : Option Span) (entries : List (Key × Item))
  /-- Tables with a common header in doubled brackets, the last one first. -/
  | tables (elements : List (List (Key × Item))) (span : Span)

instance : Inhabited Item := ⟨.scalar .datetime ⟨0, 0⟩⟩

/-- Keys with what stands under them, in order. -/
abbrev Entries := List (Key × Item)

/-- Where an item stands, unless it is a table without a header. -/
def Item.span : Item → Option Span
  | scalar _ s => some s
  | array _ s => some s
  | inlineTable _ s => some s
  | table _ s _ => s
  | tables _ s => some s

/-- A reader takes a value from the front of a text and leaves the rest, or refuses the text. -/
abbrev Reader (α : Type) := List Char → Option (α × List Char)

end Outline.Toml
