import Outline.Json.Value
import Outline.Json.Text

/-!
# Writing JSON

`Value.write` writes a value without blanks. A number with a fraction is written with the fewest
digits that are read back.
-/

namespace Outline.Json

/-- The text of a number. -/
def Number.text : Number → String
  | natural n => toString n
  | negative n => "-" ++ toString n
  | real sign x => DecimalStyle.compact.signed sign x

namespace Value

mutual

/-- A value without blanks. -/
def write : Value → List Char
  | null => ['n', 'u', 'l', 'l']
  | bool true => ['t', 'r', 'u', 'e']
  | bool false => ['f', 'a', 'l', 's', 'e']
  | number n => n.text.toList
  | string s => written s
  | array vs => '[' :: writeItems vs ++ [']']
  | object ms => '\x7b' :: writeMembers ms ++ ['\x7d']

/-- Items with commas between them. -/
def writeItems : List Value → List Char
  | [] => []
  | [v] => v.write
  | v :: vs => v.write ++ ',' :: writeItems vs

/-- Members with commas between them. -/
def writeMembers : List (String × Value) → List Char
  | [] => []
  | [(k, v)] => written k ++ ':' :: v.write
  | (k, v) :: ms => written k ++ ':' :: (v.write ++ ',' :: writeMembers ms)

end

/-- The text of a value. -/
def text (v : Value) : String := String.ofList v.write

end Value

end Outline.Json
