import Outline.Toml.Text

/-!
# Numbers, dates and times in TOML

A value that begins with a digit or a sign is a date or time if it begins like one, else a
floating point number if it has a fraction or an exponent, else a whole number, which must fit
into 64 bits. Digits may be parted by single underscores.
-/

namespace Outline.Toml

/-! ### Digits -/

/-- More digits, each perhaps behind an underscore; `taken` holds those before, last first. -/
def readMoreDigits (isDigit : Char → Bool) : (taken : List Char) → Reader (List Char)
  | taken, [] => some (taken.reverse, [])
  | taken, c :: rest =>
    if isDigit c then readMoreDigits isDigit (c :: taken) rest
    else if c = '_' then
      match rest with
      | d :: rest => if isDigit d then readMoreDigits isDigit (d :: taken) rest else none
      | [] => none
    else some (taken.reverse, c :: rest)

/-- One digit or more. -/
def readDigits (isDigit : Char → Bool) : Reader (List Char)
  | c :: rest => if isDigit c then readMoreDigits isDigit [c] rest else none
  | [] => none

/-- The number with these digits. -/
def digitsValue (base : Nat) (ds : List Char) : Nat :=
  ds.foldl (fun n c => n * base + (hexValue c).getD 0) 0

/-- A sign, if there is one; the answer is whether it is a minus. -/
def readSign : List Char → Bool × List Char
  | '+' :: rest => (false, rest)
  | '-' :: rest => (true, rest)
  | rest => (false, rest)

/-- A decimal number with its sign. Only zero begins with a zero. -/
def readDecimal (cs : List Char) : Option ((Bool × List Char) × List Char) :=
  let (negative, cs) := readSign cs
  match cs with
  | '0' :: rest => some ((negative, ['0']), rest)
  | rest => (readDigits Char.isDigit rest).map fun (ds, rest) => ((negative, ds), rest)

/-! ### Whole numbers -/

/-- A whole number to another base, after its mark. -/
def readBased (base : Nat) (isDigit : Char → Bool) (cs : List Char) :
    Option (Int × List Char) := do
  let (ds, rest) ← readDigits isDigit cs
  let n := digitsValue base ds
  if n < Nat.pow 2 63 then some (n, rest) else none

/-- A whole number. -/
def readInteger : Reader Int
  | '0' :: 'x' :: rest => readBased 16 (fun c => (hexValue c).isSome) rest
  | '0' :: 'o' :: rest => readBased 8 (fun c => '0' ≤ c && c ≤ '7') rest
  | '0' :: 'b' :: rest => readBased 2 (fun c => c = '0' || c = '1') rest
  | cs => do
    let ((negative, ds), rest) ← readDecimal cs
    let n := digitsValue 10 ds
    if negative then if n ≤ Nat.pow 2 63 then some (-n, rest) else none
    else if n < Nat.pow 2 63 then some (n, rest) else none

/-! ### Floating point numbers -/

/-- The magnitude nearest to digits times a power of ten. Decimals far from all magnitudes are
told by their size alone. -/
def roundDecimal (ds : List Char) (e : Int) : Option Binary64 :=
  let ds := ds.dropWhile (· == '0')
  let size : Int := ds.length + e
  if ds.isEmpty || size < -400 then some .zero
  else if size > 400 then none
  else Binary64.ofDecimal (digitsValue 10 ds) e

/-- An exponent, if there is one. -/
def readExponent? : Reader Int
  | c :: rest =>
    if c = 'e' || c = 'E' then do
      let (down, rest) := readSign rest
      let (ds, rest) ← readDigits Char.isDigit rest
      let n : Int := digitsValue 10 ds
      return (if down then -n else n, rest)
    else none
  | [] => none

/-- Infinity and the value that is no number. -/
def readSpecial (cs : List Char) : Option (FloatValue × List Char) :=
  let (negative, cs) := readSign cs
  match cs with
  | 'i' :: 'n' :: 'f' :: rest => some (.infinite negative, rest)
  | 'n' :: 'a' :: 'n' :: rest => some (.nan, rest)
  | _ => none

/-- A number with fraction or exponent. A positive one beyond the largest magnitude is refused, a
negative one is infinite. -/
def readFractional (cs : List Char) : Option (FloatValue × List Char) := do
  let ((negative, whole), rest) ← readDecimal cs
  let (ds, e, rest) ← match rest with
    | '.' :: rest => do
      let (fraction, rest) ← readDigits Char.isDigit rest
      let (e, rest) := (readExponent? rest).getD (0, rest)
      pure (whole ++ fraction, e - fraction.length, rest)
    | rest => do
      let (e, rest) ← readExponent? rest
      pure (whole, e, rest)
  match roundDecimal ds e with
  | some x => return (.finite negative x, rest)
  | none => if negative then return (.infinite true, rest) else none

/-- A floating point number. -/
def readFloat (cs : List Char) : Option (FloatValue × List Char) :=
  (readFractional cs).or (readSpecial cs)

/-! ### Dates and times -/

/-- A number of just so many digits, within bounds. -/
def readField (digits lo hi : Nat) (cs : List Char) : Option (Nat × List Char) :=
  let ds := cs.take digits
  let n := digitsValue 10 ds
  if ds.length = digits && ds.all Char.isDigit && lo ≤ n && n ≤ hi then some (n, cs.drop digits)
  else none

/-- The text behind a character that must stand at its front. -/
def expect (c : Char) : List Char → Option (List Char)
  | d :: rest => if d = c then some rest else none
  | [] => none

/-- Whether the year has a 29th of February. -/
def isLeapYear (year : Nat) : Bool := year % 4 = 0 && (year % 100 ≠ 0 || year % 400 = 0)

/-- The number of days of a month. -/
def daysIn (year month : Nat) : Nat :=
  if month = 2 then if isLeapYear year then 29 else 28
  else if [4, 6, 9, 11].contains month then 30
  else 31

/-- A day of the calendar. -/
def readDate (cs : List Char) : Option (List Char) := do
  let (year, rest) ← readField 4 0 9999 cs
  let (month, rest) ← readField 2 1 12 (← expect '-' rest)
  let (_, rest) ← readField 2 1 (daysIn year month) (← expect '-' rest)
  return rest

/-- A time of the day. -/
def readTime (cs : List Char) : Option (List Char) := do
  let (_, rest) ← readField 2 0 23 cs
  let (_, rest) ← readField 2 0 59 (← expect ':' rest)
  let (_, rest) ← readField 2 0 60 (← expect ':' rest)
  match rest with
  | '.' :: d :: more => return if d.isDigit then more.dropWhile Char.isDigit else rest
  | rest => return rest

/-- The distance from universal time. -/
def readOffset : List Char → Option (List Char)
  | c :: rest =>
    if c = 'Z' || c = 'z' then some rest
    else if c = '+' || c = '-' then do
      let (_, rest) ← readField 2 0 23 rest
      let (_, rest) ← readField 2 0 59 (← expect ':' rest)
      return rest
    else none
  | [] => none

/-- The time that may follow a date. -/
def readTimeAfterDate : List Char → Option (List Char)
  | c :: rest =>
    if c = 'T' || c = 't' || c = ' ' then
      (readTime rest).map fun rest => (readOffset rest).getD rest
    else none
  | [] => none

/-- A date, a time, or both. -/
def readDatetime (cs : List Char) : Option (List Char) :=
  match readDate cs with
  | some rest => some ((readTimeAfterDate rest).getD rest)
  | none => readTime cs

/-! ### Scalars -/

/-- A value that begins with a digit or a sign. -/
def readNumeric (cs : List Char) : Option (Scalar × List Char) :=
  match readDatetime cs with
  | some rest => some (.datetime, rest)
  | none =>
    match readFloat cs with
    | some (x, rest) => some (.float x, rest)
    | none => (readInteger cs).map fun (n, rest) => (.integer n, rest)

/-- A value without parts. -/
def readScalar : Reader Scalar
  | 't' :: 'r' :: 'u' :: 'e' :: rest => some (.boolean true, rest)
  | 'f' :: 'a' :: 'l' :: 's' :: 'e' :: rest => some (.boolean false, rest)
  | c :: rest =>
    if c = '"' || c = '\x27' then (readString (c :: rest)).map fun (s, rest) => (.string s, rest)
    else if c = 'i' || c = 'n' then
      (readSpecial (c :: rest)).map fun (x, rest) => (.float x, rest)
    else if c = '+' || c = '-' || c.isDigit then readNumeric (c :: rest)
    else none
  | [] => none

end Outline.Toml
