import Outline.Json.Text

/-!
# Strings are read back as they are written

Each character, whether it is written as it is, by a short escape or by its number, is read back
by one step of the reader (`readChars_writtenChar`). So a written string is read back whatever
follows it (`readString_written`), if the fuel exceeds the number of its characters.
-/

namespace Outline.Json

theorem hexValue_hexDigit : ∀ n < 16, hexValue (hexDigit n) = some n := by decide

/-- The escape of a control character by its number. -/
private theorem readEscape_number {c : Char} (h : c.toNat < 32) (rest : List Char) :
    readEscape ('u' :: '0' :: '0' :: hexDigit (c.toNat / 16) :: hexDigit (c.toNat % 16) :: rest) =
      .ok (c, rest) := by
  have hzero : hexValue '0' = some 0 := by decide
  have hhigh := hexValue_hexDigit (c.toNat / 16) (by omega)
  have hlow := hexValue_hexDigit (c.toNat % 16) (by omega)
  have hsum : ((0 * 16 + 0) * 16 + c.toNat / 16) * 16 + c.toNat % 16 = c.toNat := by omega
  have hhex : readHex
      ('0' :: '0' :: hexDigit (c.toNat / 16) :: hexDigit (c.toNat % 16) :: rest) =
        .ok (c.toNat, rest) := by
    simp only [readHex, hzero, hhigh, hlow, hsum]
  have htrail : ¬ (0xDC00 ≤ c.toNat ∧ c.toNat ≤ 0xDFFF) := by omega
  have hlead : ¬ (0xD800 ≤ c.toNat ∧ c.toNat ≤ 0xDBFF) := by omega
  simp [readEscape, hhex, bind, Except.bind, pure, Except.pure, htrail, hlead,
    Char.ofNat_toNat]

/-- **A character is read back as it is written**, in one step. -/
theorem readChars_writtenChar (fuel : Nat) (taken : List Char) (c : Char) (rest : List Char) :
    readChars (fuel + 1) taken (writtenChar c ++ rest) = readChars fuel (c :: taken) rest := by
  by_cases hshort : c = '"' ∨ c = '\\' ∨ c = '\x08' ∨ c = '\x0c' ∨ c = '\n' ∨ c = '\r' ∨ c = '\t'
  · -- two characters, of which the second names the first
    rcases hshort with rfl | rfl | rfl | rfl | rfl | rfl | rfl <;>
      simp [writtenChar, readChars, readEscape]
  · simp only [not_or] at hshort
    obtain ⟨hquote, hslash, hb, hf, hn, hr, ht⟩ := hshort
    by_cases h : c.toNat < 32
    · simp [writtenChar, readChars, hquote, hslash, hb, hf, hn, hr, ht, h, readEscape_number h]
    · simp [writtenChar, readChars, hquote, hslash, hb, hf, hn, hr, ht, h]

theorem readChars_flatMap_writtenChar {fuel : Nat} {cs : List Char} (h : cs.length < fuel)
    (taken rest : List Char) :
    readChars fuel taken (cs.flatMap writtenChar ++ '"' :: rest) =
      .ok (String.ofList (taken.reverse ++ cs), rest) := by
  induction cs generalizing fuel taken with
  | nil =>
    obtain ⟨fuel, rfl⟩ := Nat.exists_eq_add_of_lt h
    simp [readChars]
  | cons c cs ih =>
    obtain ⟨fuel, rfl⟩ : ∃ n, fuel = n + 1 := ⟨fuel - 1, by omega⟩
    rw [List.flatMap_cons, List.append_assoc, readChars_writtenChar,
      ih (by simpa using h)]
    simp

/-- No character is written by less than one. -/
theorem length_le_length_flatMap_writtenChar (cs : List Char) :
    cs.length ≤ (cs.flatMap writtenChar).length := by
  induction cs with
  | nil => exact Nat.le_refl 0
  | cons c cs ih =>
    have hc : 0 < (writtenChar c).length := by
      unfold writtenChar
      repeat' split
      all_goals simp
    rw [List.flatMap_cons, List.length_append, List.length_cons]
    omega

theorem written_append (s : String) (rest : List Char) :
    written s ++ rest = '"' :: (s.toList.flatMap writtenChar ++ '"' :: rest) := by
  simp [written]

/-- **A string is read back as it is written**, and what follows it is left. -/
theorem readString_written {fuel : Nat} {s : String} {rest : List Char}
    (h : (written s ++ rest).length < fuel) :
    readString fuel (s.toList.flatMap writtenChar ++ '"' :: rest) = .ok (s, rest) := by
  have hlength := length_le_length_flatMap_writtenChar s.toList
  have hfuel : s.toList.length < fuel := by
    simp only [written_append, List.length_append, List.length_cons] at h
    omega
  rw [readString, readChars_flatMap_writtenChar hfuel]
  simp

end Outline.Json
