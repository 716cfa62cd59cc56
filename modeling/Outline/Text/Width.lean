import Outline.Text.Width.Tables

/-!
# How many terminal cells a text takes

The width of a text is the sum of the widths of its characters, where the width of a character
depends on what stands to its right: an emoji before a skin tone, a letter before another that it
joins with, or a character before a variation selector.

The text is therefore read from the right. `Ahead` is what the reader remembers of the text to
the right, `Pending` a variation selector among it that has not met its base yet, and `before`
gives the cells of one more character together with what is then ahead. A character that takes no
part in any sequence is answered by `alone`. Single characters may take a negative number of cells
back from a sequence; the sum never falls below zero.
-/

namespace Outline.Text

/-- What stands to the right of a character, as far as it bears on its width. -/
inductive Ahead where
  /-- Nothing that matters. -/
  | plain
  /-- A line feed. -/
  | lineFeed
  /-- A skin tone. -/
  | skinTone
  /-- One half of a flag. -/
  | region
  /-- Two halves of a flag, or more. -/
  | regions
  /-- An emoji. -/
  | emoji
  /-- A joiner followed by an emoji. -/
  | joinedEmoji
  /-- A keycap sign followed by a joiner and an emoji. -/
  | joinedKeycap
  /-- One half of a flag, a joiner and an emoji. -/
  | joinedRegion
  /-- An even number of halves of flags, a joiner and an emoji. -/
  | joinedEven
  /-- An odd number of them, and more than one. -/
  | joinedOdd
  /-- The last so many letters and digits of a tag sequence, a joiner and an emoji. -/
  | tag (letters digits : Nat)
  /-- A selector of wide quotation marks. -/
  | wideQuote
  /-- An Arabic alef. -/
  | alef
  /-- A Hebrew lamed, with or without a joiner before it. -/
  | lamed (joined : Bool)
  /-- A Khmer letter that can be stacked below another. -/
  | stackable
  /-- A Buginese ya, with or without a joiner before it. -/
  | ya (joined : Bool)
  /-- A Buginese vowel before a joined ya. -/
  | vowelYa
  /-- A Tifinagh consonant, with or without a joiner before it. -/
  | consonant (joined : Bool)
  /-- The Tifinagh consonant joiner before a consonant. -/
  | consonantJoiner
  /-- A Lisu tone letter that closes a pair. -/
  | tone
  /-- An Old Turkic orkhon i, with or without a joiner before it. -/
  | orkhon (joined : Bool)
  /-- A Kirat Rai vowel sign e. -/
  | vowelE
  /-- A Kirat Rai vowel sign ai. -/
  | vowelAi
deriving DecidableEq

/-- A variation selector that waits for its base. -/
inductive Pending where
  /-- No selector. -/
  | none
  /-- The selector of text. -/
  | text
  /-- The selector of emoji. -/
  | emoji
deriving DecidableEq

/-- What the reader from the right remembers. -/
structure Reading where
  /-- What stands to the right. -/
  ahead : Ahead
  /-- The selector on its way to its base. -/
  pending : Pending

namespace Ahead

/-- Letters whose sequences variation selectors and other invisible signs do not break. -/
def isLetter : Ahead → Bool
  | alef | lamed _ | stackable | ya _ | vowelYa | consonant _ | consonantJoiner | tone | orkhon _
  | vowelE | vowelAi => true
  | _ => false

/-- A joiner followed by what an emoji selector may still stand before. -/
def isJoinedEmoji : Ahead → Bool
  | joinedEmoji | joinedKeycap => true
  | _ => false

/-- What is ahead when a joiner comes before a letter. -/
def join : Ahead → Ahead
  | lamed _ => lamed true
  | ya _ => ya true
  | consonant _ => consonant true
  | orkhon _ => orkhon true
  | a => a

end Ahead

namespace Reading

/-- A reader that remembers no selector. -/
def bare (a : Ahead) : Reading := ⟨a, .none⟩

/-- Forget the selector; only a letter is still remembered behind it. -/
def dropPending (r : Reading) : Reading :=
  match r.pending with
  | .none => r
  | _ => if r.ahead.isLetter then bare r.ahead else bare .plain

/-- Meet the selector of emoji. -/
def emojiSelector (r : Reading) : Reading :=
  if r.ahead.isLetter || (r.ahead.isJoinedEmoji && r.pending = .none) then ⟨r.ahead, .emoji⟩
  else ⟨.plain, .emoji⟩

/-- Meet the selector of text. -/
def textSelector (r : Reading) : Reading :=
  if r.ahead.isLetter then ⟨r.ahead, .text⟩ else ⟨.plain, .text⟩

/-- Whether nothing is remembered. -/
def isPlain (r : Reading) : Bool := r.ahead = .plain && r.pending = .none

end Reading

/-! ### Classes of characters -/

/-- Whether a character lies between two code points. -/
def inRange (lo hi : Nat) (c : Char) : Bool := lo ≤ c.toNat && c.toNat ≤ hi

/-- Halves of flags. -/
def isRegion (c : Char) : Bool := inRange 0x1F1E6 0x1F1FF c

/-- Skin tones. -/
def isSkinTone (c : Char) : Bool := inRange 0x1F3FB 0x1F3FF c

/-- Tifinagh consonants. -/
def isConsonant (c : Char) : Bool := inRange 0x2D31 0x2D65 c || c.toNat == 0x2D6F

/-- Khmer letters that can be stacked below another. -/
def stackableLetters : Ranges :=
  [(0x1780, 0x1782), (0x1784, 0x1787), (0x1789, 0x178C), (0x178E, 0x1793), (0x1795, 0x1798),
   (0x179B, 0x179D), (0x17A0, 0x17A0), (0x17A2, 0x17A2), (0x17A7, 0x17A7), (0x17AB, 0x17AC),
   (0x17AF, 0x17AF)]

/-- Arabic letters that join like alef. -/
def alefs : Ranges :=
  [(0x622, 0x623), (0x625, 0x625), (0x627, 0x627), (0x671, 0x673), (0x675, 0x675),
   (0x773, 0x774), (0x870, 0x882)]

/-- Arabic letters that join like lam. -/
def lams : Ranges :=
  [(0x644, 0x644), (0x6B5, 0x6B8), (0x76A, 0x76A), (0x8A6, 0x8A6), (0x8C7, 0x8C7)]

/-- Invisible signs that do not break the sequences of letters other than Arabic ones. -/
def letterTransparent : Ranges :=
  [(0x34F, 0x34F), (0x17B4, 0x17B5), (0x180B, 0x180D), (0x180F, 0x180F), (0x200D, 0x200D),
   (0xFE00, 0xFE0F), (0xE0100, 0xE01EF)]

/-! ### Reading from the right -/

/-- The cells of a character that takes part in no sequence with what follows it, and what it is
to the character before it. -/
def alone (c : Char) : Int × Reading :=
  let n := c.toNat
  if n = 0xFE0F then (0, ⟨.plain, .emoji⟩)
  else if n = 0xFE0E then (0, ⟨.plain, .text⟩)
  else if n = 0xFE01 then (0, .bare .wideQuote)
  else if isRegion c then (1, .bare .region)
  else if isSkinTone c then (2, .bare .skinTone)
  else if emojiPresentation.has c then (2, .bare .emoji)
  else if n = 0x5DC then (1, .bare (.lamed false))
  else if alefs.has c then (1, .bare .alef)
  else if stackableLetters.has c then (1, .bare .stackable)
  else if n = 0x1A10 then (1, .bare (.ya false))
  else if isConsonant c then (1, .bare (.consonant false))
  else if inRange 0xA4FC 0xA4FD c then (1, .bare .tone)
  else if n = 0x10C03 then (1, .bare (.orkhon false))
  else if n = 0x16D67 then (1, .bare .vowelE)
  else if n = 0x16D68 then (1, .bare .vowelAi)
  else if n = 0x17D8 then (3, .bare .plain)
  else if zeroWidth.has c then (0, .bare .plain)
  else if doubleWidth.has c then (2, .bare .plain)
  else (1, .bare .plain)

/-- The cells of a character that forms a sequence with what is ahead, or nothing if it forms
none. -/
def joined (c : Char) : Ahead → Option (Int × Reading)
  | .alef =>
    if lams.has c then some (0, .bare .plain)
    else if joiningTransparent.has c then some (0, .bare .alef)
    else none
  | .lamed true => if c.toNat = 0x5D0 then some (0, .bare .plain) else none
  | .stackable => if c.toNat = 0x17D2 then some (-1, .bare .plain) else none
  | .ya true => if c.toNat = 0x1A17 then some (0, .bare .vowelYa) else none
  | .vowelYa => if c.toNat = 0x1A15 then some (0, .bare .plain) else none
  | .consonant j =>
    if c.toNat = 0x2D7F then some (1, .bare .consonantJoiner)
    else if j && isConsonant c then some (0, .bare .plain)
    else none
  | .consonantJoiner => if isConsonant c then some (-1, .bare .plain) else none
  | .tone => if inRange 0xA4F8 0xA4FB c then some (0, .bare .plain) else none
  | .orkhon true => if c.toNat = 0x10C32 then some (0, .bare .plain) else none
  | .vowelE =>
    if c.toNat = 0x16D63 || c.toNat = 0x16D69 then some (0, .bare .plain)
    else if c.toNat = 0x16D67 then some (0, .bare .vowelAi)
    else if c.toNat = 0x16D68 then some (1, .bare .vowelE)
    else none
  | .vowelAi => if c.toNat = 0x16D63 then some (0, .bare .plain) else none
  | .skinTone =>
    if modifierBase.has c then some (0, .bare .emoji)
    else if c.toNat = 0x200D then some (0, .bare .joinedEmoji)
    else none
  | .region => if isRegion c then some (1, .bare .regions) else none
  | .regions =>
    if isRegion c then some (1, .bare .regions)
    else if c.toNat = 0x200D then some (0, .bare .joinedEmoji)
    else none
  | .emoji => if c.toNat = 0x200D then some (0, .bare .joinedEmoji) else none
  | .joinedEmoji =>
    if c.toNat = 0x20E3 then some (0, .bare .joinedKeycap)
    else if isRegion c then some (1, .bare .joinedRegion)
    else if isSkinTone c then some (0, .bare .skinTone)
    else if c.toNat = 0xE007F then some (0, .bare (.tag 0 0))
    else if emojiPresentation.has c then some (0, .bare .emoji)
    else none
  | .joinedRegion => if isRegion c then some (-1, .bare .joinedEven) else none
  | .joinedEven =>
    if isRegion c then some (3, .bare .joinedOdd)
    else if c.toNat = 0x200D then some (0, .bare .joinedEmoji)
    else none
  | .joinedOdd =>
    if isRegion c then some (-1, .bare .joinedEven)
    else if c.toNat = 0x200D then some (0, .bare .joinedEmoji)
    else none
  | .tag letters digits =>
    if digits = 0 && letters < 6 && inRange 0xE0061 0xE007A c then
      some (0, .bare (.tag (letters + 1) 0))
    else if (letters ≤ 4 || digits > 0) && digits < 3 && inRange 0xE0030 0xE0039 c then
      some (0, .bare (.tag letters (digits + 1)))
    else if c.toNat = 0x1F3F4 && (digits = 3 || (digits = 0 && letters ≥ 3)) then
      some (0, .bare .emoji)
    else none
  | .wideQuote =>
    if [0x2018, 0x2019, 0x201C, 0x201D].contains c.toNat then some (2, .bare .plain) else none
  | _ => none

/-- The cells of a character beyond U+00A0, by what is ahead. -/
def beforeSelected (c : Char) (r : Reading) : Int × Reading :=
  if r.isPlain then alone c
  else if c.toNat = 0xFE0F then (0, r.emojiSelector)
  else if c.toNat = 0xFE0E then (0, r.textSelector)
  else if r.pending = .text && textSelectable.has c then (1, .bare .plain)
  else
    let r := r.dropPending
    if r.ahead.isLetter && r.ahead != .alef && letterTransparent.has c then
      (0, .bare (if c.toNat = 0x200D then r.ahead.join else r.ahead))
    else (joined c r.ahead).getD (alone c)

/-- The cells of a character, and what is ahead of the character before it. -/
def before (c : Char) (r : Reading) : Int × Reading :=
  if r.pending = .emoji && emojiSelectable.has c then
    (if r.ahead.isJoinedEmoji then 0 else 2, .bare .emoji)
  else
    let r := if r.pending = .emoji then r.dropPending else r
    if c.toNat ≤ 0xA0 then
      if c = '\n' then (1, .bare .lineFeed)
      else if c = '\r' && r.ahead = .lineFeed then (0, .bare .plain)
      else (1, .bare .plain)
    else beforeSelected c r

/-- The number of terminal cells that a text takes. -/
def width (s : String) : Nat :=
  let read (c : Char) (p : Int × Reading) : Int × Reading :=
    let (cells, r) := before c p.2
    (p.1 + cells, r)
  (s.toList.foldr read (0, .bare .plain)).1.toNat

end Outline.Text
