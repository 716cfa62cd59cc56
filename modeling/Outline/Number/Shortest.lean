import Outline.Number.Binary64

/-!
# Shortest decimals

The text of a magnitude has as few digits as let it be read back: among the decimals with that many
digits that round to the magnitude the nearest is taken, and of two equally near ones the even one.

`Binary64.shortest` finds these digits. `DecimalStyle` says where the text changes from positional
to exponential notation.
-/

namespace Outline

/-- The decimal `0.d₁d₂… * 10 ^ point`, given by the number whose digits are `d₁d₂…`. -/
structure Decimal where
  /-- The digits, read as one number. -/
  digits : Nat
  /-- The place of the point, counted from before the first digit. -/
  point : Int
deriving DecidableEq

namespace Decimal

/-- The digits as characters. -/
def digitChars (d : Decimal) : List Char := Nat.toDigits 10 d.digits

end Decimal

namespace Binary64

/-- The largest `k` with `10 ^ k ≤ num / den`, for a positive fraction. -/
def log10Ratio (num den : Nat) : Int :=
  if den ≤ num then ((Nat.toDigits 10 (num / den)).length : Int) - 1
  else -((Nat.toDigits 10 ((den - 1) / num)).length : Int)

/-- The lower and the upper end of what rounds to the magnitude, in quarters of its last place. -/
def quarterBounds (x : Binary64) : Nat × Nat :=
  let low := if x.mantissa = Nat.pow 2 (precision - 1) && x.exponent > minExponent then 1 else 2
  (4 * x.mantissa - low, 4 * x.mantissa + 2)

/-- The nearest decimal of `places` digits that rounds to the magnitude, if any does. -/
def withPlaces (x : Binary64) (k : Int) (places : Nat) : Option Decimal :=
  let e := k + 1 - places
  let up := Nat.pow 2 x.exponent.toNat * Nat.pow 10 (-e).toNat
  let unit := 4 * Nat.pow 2 (-x.exponent).toNat * Nat.pow 10 e.toNat
  let (lo, hi) := x.quarterBounds
  let within (n : Nat) : Bool :=
    if x.mantissa % 2 = 0 then lo * up ≤ n * unit && n * unit ≤ hi * up
    else lo * up < n * unit && n * unit < hi * up
  let value := 4 * x.mantissa * up
  let below := value / unit
  let rest := value % unit
  let above := below + 1
  let nearerBelow := 2 * rest < unit || (2 * rest = unit && below % 2 = 0)
  let pick : Option Nat :=
    if within below && (nearerBelow || !within above) then some below
    else if within above then some above
    else none
  pick.map fun n => if n = Nat.pow 10 places then ⟨1, k + 2⟩ else ⟨n, k + 1⟩

/-- The fewest digits that are read back as the magnitude. -/
def shortest (x : Binary64) : Decimal :=
  if x.isZero then ⟨0, 1⟩
  else
    let k := log10Ratio x.numerator x.denominator
    ((List.range 17).findSome? fun i => x.withPlaces k (i + 1)).getD ⟨0, 1⟩

end Binary64

/-- When a decimal is written with an exponent. -/
structure DecimalStyle where
  /-- Whether a decimal with this place of the point is written without an exponent. -/
  positional : Int → Bool

namespace DecimalStyle

/-- Never with an exponent. -/
def plain : DecimalStyle := ⟨fun _ => true⟩

/-- With an exponent of two digits at least, below `10 ^ -5` and from `10 ^ 16` on. -/
def compact : DecimalStyle := ⟨fun point => -4 ≤ point && point ≤ 16⟩

/-- The text of a decimal. A whole number written without exponent ends in `.0`. -/
def text (s : DecimalStyle) (d : Decimal) : String :=
  let ds := d.digitChars
  let n := ds.length
  let zeros (k : Nat) : List Char := List.replicate k '0'
  if s.positional d.point then
    if d.point ≤ 0 then String.ofList ('0' :: '.' :: zeros (-d.point).toNat ++ ds)
    else
      let p := d.point.toNat
      if n ≤ p then String.ofList (ds ++ zeros (p - n) ++ ['.', '0'])
      else String.ofList (ds.take p ++ '.' :: ds.drop p)
  else
    let e := d.point - 1
    let fraction := if n = 1 then [] else '.' :: ds.drop 1
    let sign := if e < 0 then "-" else "+"
    let pad := if e.natAbs < 10 then "0" else ""
    String.ofList (ds.take 1 ++ fraction) ++ "e" ++ sign ++ pad ++ toString e.natAbs

/-- The text of a magnitude with a sign. -/
def signed (s : DecimalStyle) (negative : Bool) (x : Binary64) : String :=
  (if negative then "-" else "") ++ s.text x.shortest

end DecimalStyle

end Outline
