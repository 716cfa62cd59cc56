import Outline.Text.Ranges

/-!
# Blanks and numbers in settings

Numbers given by variables and on the command line are decimal digits after an optional plus sign,
and fit into 64 bits.
-/

namespace Outline.Text

/-- White space of all scripts. -/
def blanks : Ranges :=
  [(0x9, 0xD), (0x20, 0x20), (0x85, 0x85), (0xA0, 0xA0), (0x1680, 0x1680), (0x2000, 0x200A),
   (0x2028, 0x2029), (0x202F, 0x202F), (0x205F, 0x205F), (0x3000, 0x3000)]

/-- The text without blanks at either end. -/
def trim (cs : List Char) : List Char :=
  ((cs.dropWhile blanks.has).reverse.dropWhile blanks.has).reverse

/-- The number whose digits these are. -/
def decimalValue (ds : List Char) : Nat := ds.foldl (fun n c => n * 10 + (c.toNat - 48)) 0

/-- The digits of a number, without its plus sign. -/
def unsigned : List Char → List Char
  | '+' :: ds => ds
  | ds => ds

/-- The number that a text stands for. -/
def natural? (cs : List Char) : Option Nat :=
  let ds := unsigned cs
  if !ds.isEmpty && ds.all Char.isDigit && decimalValue ds < Nat.pow 2 64 then
    some (decimalValue ds)
  else none

end Outline.Text
