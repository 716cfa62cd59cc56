import Outline.Json.Value
import Outline.Json.Fault

/-!
# Numbers in JSON

A number is read as a significand of at most 64 bits and a power of ten. Digits of the whole part
that do not fit into the significand only count for the power, digits of the fraction that do not
fit are passed over. A number with fraction, exponent or lost digits is the significand, rounded,
times the power or divided by its inverse, rounded again.
-/

namespace Outline.Json

/-- The largest significand. -/
def maxSignificand : Nat := Nat.pow 2 64 - 1

/-- The largest exponent that can be written. -/
def maxWrittenExponent : Nat := Nat.pow 2 31 - 1

/-- The value of a decimal digit. -/
def digitValue (c : Char) : Nat := c.toNat - 48

/-- Take digits as long as the number that they continue stays within a limit. The answer is the
number, how many digits were taken, and what is left. -/
def takeDigits (limit : Nat) : (acc taken : Nat) → List Char → Nat × Nat × List Char
  | acc, taken, [] => (acc, taken, [])
  | acc, taken, c :: cs =>
    if c.isDigit && acc * 10 + digitValue c ≤ limit then
      takeDigits limit (acc * 10 + digitValue c) (taken + 1) cs
    else (acc, taken, c :: cs)

/-- A power of ten, for exponents to 308. -/
def powerOfTen (e : Nat) : Binary64 := (Binary64.ofDecimal 1 e).getD .zero

/-- Divide by a power of ten, in steps of at most `10 ^ 308`. -/
def divPowerOfTen (x : Binary64) (e : Nat) : Binary64 :=
  if h : e ≤ 308 then (x.div (powerOfTen e)).getD .zero
  else if x.isZero then x
  else divPowerOfTen ((x.div (powerOfTen 308)).getD .zero) (e - 308)
termination_by e

/-- The number with this significand and power of ten, unless it is too large. -/
def scale (significand : Nat) (e : Int) : Option Binary64 :=
  let x := (Binary64.ofNat significand).getD .zero
  if e < 0 then some (divPowerOfTen x (-e).toNat)
  else if e ≤ 308 then x.mul (powerOfTen e.toNat)
  else if x.isZero then some x
  else none

/-- A number other than a whole one that is kept exactly. -/
def real (negative : Bool) (significand : Nat) (e : Int) (rest : List Char) :
    Except (Fault SyntaxError) (Number × List Char) :=
  match scale significand e with
  | some x => .ok (.real negative x, rest)
  | none => .error (.here .numberOutOfRange rest)

/-- The exponent after its letter, for a significand that has the power `e` without it. -/
def readExponent (negative : Bool) (significand : Nat) (e : Int) :
    Reader SyntaxError Number := fun cs =>
  let (down, cs) := match cs with
    | '+' :: rest => (false, rest)
    | '-' :: rest => (true, rest)
    | cs => (false, cs)
  match cs with
  | [] => .error (.here .eofValue [])
  | c :: rest =>
    if !c.isDigit then .error (.next .invalidNumber cs)
    else
      let (n, _, rest) := takeDigits maxWrittenExponent (digitValue c) 0 rest
      match rest with
      | d :: rest' =>
        if d.isDigit then
          if significand ≠ 0 && !down then .error (.here .numberOutOfRange rest')
          else .ok (.real negative .zero, rest'.dropWhile Char.isDigit)
        else real negative significand (if down then e - n else e + n) rest
      | [] => real negative significand (if down then e - n else e + n) rest

/-- What may follow the digits of a number: an exponent or nothing. -/
def readPower (negative : Bool) (significand : Nat) (e : Int) : Reader SyntaxError Number
  | 'e' :: rest => readExponent negative significand e rest
  | 'E' :: rest => readExponent negative significand e rest
  | rest => real negative significand e rest

/-- The fraction after the point. -/
def readFraction (negative : Bool) (significand : Nat) (e : Int) :
    Reader SyntaxError Number := fun cs =>
  let (significand, taken, rest) := takeDigits maxSignificand significand 0 cs
  let lost := rest.takeWhile Char.isDigit
  if taken = 0 && lost.isEmpty then
    .error (.next (if rest.isEmpty then .eofValue else .invalidNumber) rest)
  else readPower negative significand (e - taken) (rest.drop lost.length)

/-- What follows the whole part. -/
def readTail (negative : Bool) (significand lost : Nat) : Reader SyntaxError Number
  | '.' :: rest => readFraction negative significand lost rest
  | 'e' :: rest => readExponent negative significand lost rest
  | 'E' :: rest => readExponent negative significand lost rest
  | rest =>
    if lost > 0 then real negative significand lost rest
    else if !negative then .ok (.natural significand, rest)
    else if significand = 0 || significand > Nat.pow 2 63 then real true significand 0 rest
    else .ok (.negative significand, rest)

/-- A number, after its sign. -/
def readNumber (negative : Bool) : Reader SyntaxError Number
  | [] => .error (.here .eofValue [])
  | c :: rest =>
    if c = '0' then
      match rest with
      | d :: _ =>
        if d.isDigit then .error (.next .invalidNumber rest) else readTail negative 0 0 rest
      | [] => readTail negative 0 0 rest
    else if c.isDigit then
      let (significand, _, rest) := takeDigits maxSignificand (digitValue c) 0 rest
      let lost := rest.takeWhile Char.isDigit
      readTail negative significand lost.length (rest.drop lost.length)
    else .error (.next .invalidNumber (c :: rest))

end Outline.Json
