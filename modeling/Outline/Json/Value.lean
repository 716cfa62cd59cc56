import Outline.Number.Shortest

/-!
# JSON values

The values that a JSON text can hold. The members of an object keep their order and may repeat a
name.
-/

namespace Outline.Json

/-- A number as it was written: whole numbers of 64 bits are kept exactly. -/
inductive Number where
  /-- A whole number below `2 ^ 64`. -/
  | natural (n : Nat)
  /-- The negative of a whole number from 1 to `2 ^ 63`. -/
  | negative (n : Nat)
  /-- Any other number, with its sign. -/
  | real (negative : Bool) (magnitude : Binary64)
deriving DecidableEq

/-- A JSON value. -/
inductive Value where
  /-- The value `null`. -/
  | null
  /-- A truth value. -/
  | bool (b : Bool)
  /-- A number. -/
  | number (n : Number)
  /-- A text. -/
  | string (s : String)
  /-- Items in order. -/
  | array (items : List Value)
  /-- Named members in order. -/
  | object (members : List (String × Value))

instance : Inhabited Value := ⟨.null⟩

end Outline.Json
