import Outline.Text.Quoted.Tables

/-!
# Quoted text

Diagnostics show a text between double quotes, so that its ends and every character of it can be
told. Quotes, backslashes and the usual controls are shown with a backslash, other characters that
would not be seen by their number, and all else as itself.
-/

namespace Outline.Text

/-- The digits of a number to base sixteen, in lower case. -/
def hex (n : Nat) : String := String.ofList (Nat.toDigits 16 n)

/-- How a character is shown between quotes. -/
def quotedChar (c : Char) : String :=
  if c = '"' then "\\\""
  else if c = '\\' then "\\\\"
  else if c = '\t' then "\\t"
  else if c = '\n' then "\\n"
  else if c = '\r' then "\\r"
  else if c.toNat = 0 then "\\0"
  else if unprintable.has c then "\\u\x7b" ++ hex c.toNat ++ "\x7d"
  else String.singleton c

/-- The text between quotes. -/
def quote (s : String) : String := "\"" ++ String.join (s.toList.map quotedChar) ++ "\""

end Outline.Text
