/-!
# Magnitudes in binary floating point

A `Binary64` is a finite magnitude `mantissa * 2 ^ exponent` with 53 bits of precision and an
exponent from -1074 to 971. All arithmetic is on exact fractions of natural numbers, rounded once
to the nearest magnitude, where a tie goes to the even mantissa. A fraction that rounds beyond the
largest magnitude has no result.
-/

namespace Outline

/-- The magnitude `mantissa * 2 ^ exponent`. -/
structure Binary64 where
  /-- The mantissa, below `2 ^ 53`. -/
  mantissa : Nat
  /-- The exponent of two. -/
  exponent : Int
deriving DecidableEq

namespace Binary64

/-- The number of bits of a mantissa. -/
def precision : Nat := 53

/-- The exponent of the smallest magnitudes. -/
def minExponent : Int := -1074

/-- The exponent of the largest magnitudes. -/
def maxExponent : Int := 971

/-- Zero. -/
def zero : Binary64 := ⟨0, minExponent⟩

/-- Whether the magnitude is zero. -/
def isZero (x : Binary64) : Bool := x.mantissa == 0

/-- The numerator of the magnitude as a fraction over a power of two. -/
def numerator (x : Binary64) : Nat := x.mantissa * Nat.pow 2 x.exponent.toNat

/-- The power of two under which the magnitude is a fraction. -/
def denominator (x : Binary64) : Nat := Nat.pow 2 (-x.exponent).toNat

/-- The largest `k` with `2 ^ k ≤ num / den`, for a positive fraction. -/
def log2Ratio (num den : Nat) : Int :=
  let k : Int := (Nat.log2 num : Int) - (Nat.log2 den : Int)
  if num * Nat.pow 2 (-k).toNat < den * Nat.pow 2 k.toNat then k - 1 else k

/-- The quotient rounded to the nearest whole number, a tie to the even one. -/
def divNearest (num den : Nat) : Nat :=
  let q := num / den
  let r := num % den
  if 2 * r < den then q else if 2 * r = den && q % 2 = 0 then q else q + 1

/-- The magnitude nearest to a fraction with a positive denominator. -/
def ofRatio (num den : Nat) : Option Binary64 :=
  if num = 0 then some zero
  else
    let e := max (log2Ratio num den - (precision - 1)) minExponent
    let m := divNearest (num * Nat.pow 2 (-e).toNat) (den * Nat.pow 2 e.toNat)
    let x : Binary64 :=
      if m = Nat.pow 2 precision then ⟨Nat.pow 2 (precision - 1), e + 1⟩ else ⟨m, e⟩
    if x.exponent ≤ maxExponent then some x else none

/-- The magnitude nearest to a natural number. -/
def ofNat (n : Nat) : Option Binary64 := ofRatio n 1

/-- The product, rounded. -/
def mul (x y : Binary64) : Option Binary64 :=
  ofRatio (x.numerator * y.numerator) (x.denominator * y.denominator)

/-- The quotient by a magnitude other than zero, rounded. -/
def div (x y : Binary64) : Option Binary64 :=
  ofRatio (x.numerator * y.denominator) (x.denominator * y.numerator)

/-- The magnitude nearest to a decimal `n * 10 ^ e`. -/
def ofDecimal (n : Nat) (e : Int) : Option Binary64 :=
  ofRatio (n * Nat.pow 10 e.toNat) (Nat.pow 10 (-e).toNat)

end Binary64

end Outline
