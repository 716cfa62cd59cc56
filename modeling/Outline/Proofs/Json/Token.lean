import Outline.Json.Reader
import Outline.Proofs.Json.Nesting
import Mathlib.Tactic.SplitIfs

/-!
# Values without brackets in front of more text

A number, a string or a word that is read is read again when more text stands behind it
(`extends_readNumber`, `readString_append`, `readScalar_append`), since no reader looks further than
the first character that it leaves.

Strings and words end by themselves. The end of a number is told by what follows it, so that where
nothing is left of the text, the text that is put behind must not go on with a number (`Stops`).
The reader of numbers is a chain of readers for its parts, each of which ends the number or hands
over to the next: `Extends` is carried from the last of them to the first.
-/

namespace Outline.Json

/-- A text that does not begin like the rest of a number. -/
def Stops (cs : List Char) : Prop :=
  ∀ c ∈ cs.head?, c.isDigit = false ∧ c ≠ '.' ∧ c ≠ 'e' ∧ c ≠ 'E'

/-- All of a reader's answers remain its answers with more text behind, if the end of a number is
settled. -/
def Extends {ε α : Type} (r : Reader ε α) : Prop :=
  ∀ ⦃cs a rest⦄, r cs = .ok (a, rest) → ∀ more, rest ≠ [] ∨ Stops more →
    r (cs ++ more) = .ok (a, rest ++ more)

/-! ### Digits -/

theorem drop_length_takeWhile {α : Type} (p : α → Bool) (cs : List α) :
    cs.drop (cs.takeWhile p).length = cs.dropWhile p := by
  induction cs with
  | nil => rfl
  | cons c cs ih => cases hc : p c <;> simp [hc, ih]

theorem ne_nil_of_dropWhile_ne_nil {α : Type} {p : α → Bool} {cs : List α}
    (h : cs.dropWhile p ≠ []) : cs ≠ [] := by
  rintro rfl
  exact h rfl

/-- What is left behind digits begins with none, or more text does. -/
theorem dropWhile_isDigit_append {cs more : List Char}
    (h : cs.dropWhile Char.isDigit ≠ [] ∨ Stops more) :
    (cs ++ more).dropWhile Char.isDigit = cs.dropWhile Char.isDigit ++ more := by
  rw [List.dropWhile_append]
  by_cases hcs : cs.dropWhile Char.isDigit = []
  · have hstops := h.resolve_left (absurd hcs)
    cases more with
    | nil => simp [hcs]
    | cons c more => simp [hcs, (hstops c rfl).1]
  · simp [hcs]

theorem takeWhile_isDigit_append {cs more : List Char}
    (h : cs.dropWhile Char.isDigit ≠ [] ∨ Stops more) :
    (cs ++ more).takeWhile Char.isDigit = cs.takeWhile Char.isDigit := by
  have hsplit : (cs ++ more).takeWhile Char.isDigit ++ (cs ++ more).dropWhile Char.isDigit =
      cs.takeWhile Char.isDigit ++ (cs.dropWhile Char.isDigit ++ more) := by
    rw [List.takeWhile_append_dropWhile, ← List.append_assoc, List.takeWhile_append_dropWhile]
  rw [dropWhile_isDigit_append h] at hsplit
  exact List.append_cancel_right hsplit

theorem takeDigits_append {limit acc taken n k : Nat} {cs rest more : List Char}
    (h : takeDigits limit acc taken cs = (n, k, rest)) (hmore : rest ≠ [] ∨ Stops more) :
    takeDigits limit acc taken (cs ++ more) = (n, k, rest ++ more) := by
  induction cs generalizing acc taken with
  | nil =>
    cases h
    have hstops := hmore.resolve_left fun h => h rfl
    cases more with
    | nil => rfl
    | cons c more => simp [takeDigits, (hstops c rfl).1]
  | cons c cs ih =>
    rw [takeDigits] at h
    rw [List.cons_append, takeDigits]
    split at h
    · rw [if_pos ‹_›]
      exact ih h
    · cases h
      rw [if_neg ‹_›]
      rfl

/-! ### Numbers -/

theorem real_append {negative : Bool} {significand : Nat} {e : Int} {n : Number}
    {cs rest : List Char} (h : real negative significand e cs = .ok (n, rest)) (more : List Char) :
    rest = cs ∧ real negative significand e (cs ++ more) = .ok (n, cs ++ more) := by
  rw [real] at h ⊢
  cases hscale : scale significand e with
  | none => rw [hscale] at h; cases h
  | some x =>
    rw [hscale] at h
    cases h
    exact ⟨rfl, rfl⟩

/-- The digits of an exponent, after its sign. -/
def readExponentDigits (negative : Bool) (significand : Nat) (e : Int) (down : Bool) :
    Reader SyntaxError Number
  | [] => .error (.here .eofValue [])
  | c :: rest =>
    if !c.isDigit then .error (.next .invalidNumber (c :: rest))
    else
      let (n, _, rest) := takeDigits maxWrittenExponent (digitValue c) 0 rest
      match rest with
      | d :: rest' =>
        if d.isDigit then
          if significand ≠ 0 && !down then .error (.here .numberOutOfRange rest')
          else .ok (.real negative .zero, rest'.dropWhile Char.isDigit)
        else real negative significand (if down then e - n else e + n) rest
      | [] => real negative significand (if down then e - n else e + n) rest

theorem readExponent_cons (negative : Bool) (significand : Nat) (e : Int) (c : Char)
    (cs : List Char) :
    readExponent negative significand e (c :: cs) =
      if c = '+' then readExponentDigits negative significand e false cs
      else if c = '-' then readExponentDigits negative significand e true cs
      else readExponentDigits negative significand e false (c :: cs) := by
  by_cases hplus : c = '+'
  · subst hplus
    cases cs <;> rfl
  · by_cases hminus : c = '-'
    · subst hminus
      cases cs <;> rfl
    · simp only [readExponent, List.cons.injEq, hplus, hminus, false_and, imp_self, implies_true,
        if_false]
      rfl

theorem extends_readExponentDigits (negative : Bool) (significand : Nat) (e : Int) (down : Bool) :
    Extends (readExponentDigits negative significand e down) := by
  intro cs n rest h more hmore
  cases cs with
  | nil => cases h
  | cons c cs =>
    rw [readExponentDigits] at h
    rw [List.cons_append, readExponentDigits]
    by_cases hc : c.isDigit
    · simp only [hc, Bool.not_true, Bool.false_eq_true, if_false] at h ⊢
      rcases hdigits : takeDigits maxWrittenExponent (digitValue c) 0 cs with ⟨m, k, left⟩
      rw [hdigits] at h
      cases left with
      | nil =>
        -- all digits were taken, so that the end of the number is up to what follows
        obtain ⟨rfl, hreal⟩ := real_append h more
        have hstops := hmore.resolve_left fun h => h rfl
        rw [takeDigits_append hdigits (.inr hstops)]
        cases more with
        | nil => exact hreal
        | cons d more => simpa [(hstops d rfl).1] using hreal
      | cons d left =>
        rw [takeDigits_append hdigits (.inl (List.cons_ne_nil _ _))]
        dsimp only [List.cons_append] at h ⊢
        by_cases hd : d.isDigit
        · rw [if_pos hd] at h ⊢
          by_cases hlarge : (decide (significand ≠ 0) && !down) = true
          · rw [if_pos hlarge] at h
            cases h
          · rw [if_neg hlarge] at h ⊢
            cases h
            rw [dropWhile_isDigit_append hmore]
        · rw [if_neg hd] at h ⊢
          obtain ⟨rfl, hreal⟩ := real_append h more
          exact hreal
    · simp [hc] at h

theorem extends_readExponent (negative : Bool) (significand : Nat) (e : Int) :
    Extends (readExponent negative significand e) := by
  intro cs n rest h more hmore
  cases cs with
  | nil => cases h
  | cons c cs =>
    rw [readExponent_cons] at h
    rw [List.cons_append, readExponent_cons]
    by_cases hplus : c = '+'
    · rw [if_pos hplus] at h ⊢
      exact extends_readExponentDigits _ _ _ _ h more hmore
    rw [if_neg hplus] at h ⊢
    by_cases hminus : c = '-'
    · rw [if_pos hminus] at h ⊢
      exact extends_readExponentDigits _ _ _ _ h more hmore
    rw [if_neg hminus] at h ⊢
    exact extends_readExponentDigits _ _ _ _ h more hmore

theorem readPower_cons (negative : Bool) (significand : Nat) (e : Int) (c : Char)
    (cs : List Char) :
    readPower negative significand e (c :: cs) =
      if c = 'e' ∨ c = 'E' then readExponent negative significand e cs
      else real negative significand e (c :: cs) := by
  by_cases he : c = 'e'
  · subst he
    rfl
  by_cases hE : c = 'E'
  · subst hE
    rfl
  simp [readPower, he, hE]

/-- In front of a text that does not go on with the number there is no exponent. -/
theorem readPower_of_stops (negative : Bool) (significand : Nat) (e : Int) {cs : List Char}
    (h : Stops cs) : readPower negative significand e cs = real negative significand e cs := by
  cases cs with
  | nil => rfl
  | cons c cs =>
    obtain ⟨-, -, he, hE⟩ := h c rfl
    rw [readPower_cons, if_neg (not_or.mpr ⟨he, hE⟩)]

theorem extends_readPower (negative : Bool) (significand : Nat) (e : Int) :
    Extends (readPower negative significand e) := by
  intro cs n rest h more hmore
  cases cs with
  | nil =>
    obtain ⟨rfl, hreal⟩ := real_append h more
    rw [List.nil_append, readPower_of_stops _ _ _ (hmore.resolve_left fun h => h rfl)]
    exact hreal
  | cons c cs =>
    rw [readPower_cons] at h
    rw [List.cons_append, readPower_cons]
    by_cases hc : c = 'e' ∨ c = 'E'
    · rw [if_pos hc] at h ⊢
      exact extends_readExponent _ _ _ h more hmore
    · rw [if_neg hc] at h ⊢
      obtain ⟨rfl, hreal⟩ := real_append h more
      exact hreal

theorem extends_readFraction (negative : Bool) (significand : Nat) (e : Int) :
    Extends (readFraction negative significand e) := by
  intro cs n rest h more hmore
  rw [readFraction] at h ⊢
  rcases hdigits : takeDigits maxSignificand significand 0 cs with ⟨m, k, left⟩
  rw [hdigits] at h
  dsimp only at h
  by_cases hnone : (decide (k = 0) && (left.takeWhile Char.isDigit).isEmpty) = true
  · rw [if_pos hnone] at h
    cases h
  rw [if_neg hnone, drop_length_takeWhile] at h
  -- if no text is left behind the digits, none is left behind the number
  have hleft : left.dropWhile Char.isDigit ≠ [] ∨ Stops more := by
    refine hmore.imp_left fun hrest hnil => hrest ?_
    rw [hnil] at h
    exact (real_append h more).1
  have hdigits' := takeDigits_append hdigits (hleft.imp_left ne_nil_of_dropWhile_ne_nil)
  rw [hdigits']
  dsimp only
  rw [if_neg (takeWhile_isDigit_append hleft ▸ hnone), drop_length_takeWhile,
    dropWhile_isDigit_append hleft]
  exact extends_readPower _ _ _ h more hmore

/-- A number that ends behind its whole part. -/
def endWhole (negative : Bool) (significand lost : Nat) : Reader SyntaxError Number := fun cs =>
  if lost > 0 then real negative significand lost cs
  else if !negative then .ok (.natural significand, cs)
  else if significand = 0 || significand > Nat.pow 2 63 then real true significand 0 cs
  else .ok (.negative significand, cs)

theorem endWhole_append {negative : Bool} {significand lost : Nat} {n : Number}
    {cs rest : List Char} (h : endWhole negative significand lost cs = .ok (n, rest))
    (more : List Char) :
    rest = cs ∧ endWhole negative significand lost (cs ++ more) = .ok (n, cs ++ more) := by
  rw [endWhole] at h ⊢
  by_cases hlost : lost > 0
  · rw [if_pos hlost] at h ⊢
    exact real_append h more
  rw [if_neg hlost] at h ⊢
  by_cases hnegative : (!negative) = true
  · rw [if_pos hnegative] at h ⊢
    cases h
    exact ⟨rfl, rfl⟩
  rw [if_neg hnegative] at h ⊢
  by_cases hreal : (decide (significand = 0) || decide (significand > Nat.pow 2 63)) = true
  · rw [if_pos hreal] at h ⊢
    exact real_append h more
  · rw [if_neg hreal] at h ⊢
    cases h
    exact ⟨rfl, rfl⟩

theorem readTail_cons (negative : Bool) (significand lost : Nat) (c : Char) (cs : List Char) :
    readTail negative significand lost (c :: cs) =
      if c = '.' then readFraction negative significand lost cs
      else if c = 'e' ∨ c = 'E' then readExponent negative significand lost cs
      else endWhole negative significand lost (c :: cs) := by
  by_cases hpoint : c = '.'
  · subst hpoint
    rfl
  by_cases he : c = 'e'
  · subst he
    rfl
  by_cases hE : c = 'E'
  · subst hE
    rfl
  simp [readTail, endWhole, hpoint, he, hE]

theorem readTail_of_stops (negative : Bool) (significand lost : Nat) {cs : List Char}
    (h : Stops cs) :
    readTail negative significand lost cs = endWhole negative significand lost cs := by
  cases cs with
  | nil => rfl
  | cons c cs =>
    obtain ⟨-, hpoint, he, hE⟩ := h c rfl
    rw [readTail_cons, if_neg hpoint, if_neg (not_or.mpr ⟨he, hE⟩)]

theorem extends_readTail (negative : Bool) (significand lost : Nat) :
    Extends (readTail negative significand lost) := by
  intro cs n rest h more hmore
  cases cs with
  | nil =>
    obtain ⟨rfl, hwhole⟩ := endWhole_append h more
    rw [List.nil_append, readTail_of_stops _ _ _ (hmore.resolve_left fun h => h rfl)]
    exact hwhole
  | cons c cs =>
    rw [readTail_cons] at h
    rw [List.cons_append, readTail_cons]
    by_cases hpoint : c = '.'
    · rw [if_pos hpoint] at h ⊢
      exact extends_readFraction _ _ _ h more hmore
    rw [if_neg hpoint] at h ⊢
    by_cases hc : c = 'e' ∨ c = 'E'
    · rw [if_pos hc] at h ⊢
      exact extends_readExponent _ _ _ h more hmore
    · rw [if_neg hc] at h ⊢
      obtain ⟨rfl, hwhole⟩ := endWhole_append h more
      exact hwhole

/-- A zero is followed by no digit. -/
theorem readNumber_zero_eq_ok_iff {negative : Bool} {n : Number} {cs rest : List Char} :
    readNumber negative ('0' :: cs) = .ok (n, rest) ↔
      (∀ c ∈ cs.head?, c.isDigit = false) ∧ readTail negative 0 0 cs = .ok (n, rest) := by
  cases cs with
  | nil => simp [readNumber]
  | cons c cs => cases hc : c.isDigit <;> simp [readNumber, hc]

theorem readNumber_of_ne_zero {negative : Bool} {c : Char} (hzero : c ≠ '0') (cs : List Char) :
    readNumber negative (c :: cs) =
      if c.isDigit then
        let (significand, _, rest) := takeDigits maxSignificand (digitValue c) 0 cs
        readTail negative significand (rest.takeWhile Char.isDigit).length
          (rest.dropWhile Char.isDigit)
      else .error (.next .invalidNumber (c :: cs)) := by
  simp only [readNumber, if_neg hzero, drop_length_takeWhile]

/-- **A number is read again in front of more text**, if its end is settled. -/
theorem extends_readNumber (negative : Bool) :
    Extends (readNumber negative) := by
  intro cs n rest h more hmore
  cases cs with
  | nil => cases h
  | cons c cs =>
    rw [List.cons_append]
    by_cases hzero : c = '0'
    · subst hzero
      obtain ⟨hdigit, htail⟩ := readNumber_zero_eq_ok_iff.mp h
      refine readNumber_zero_eq_ok_iff.mpr ⟨?_, extends_readTail _ _ _ htail more hmore⟩
      cases cs with
      | nil =>
        have hrest : rest = [] := (endWhole_append htail more).1
        exact fun c hc => (hmore.resolve_left (absurd hrest) c hc).1
      | cons c cs => exact hdigit
    rw [readNumber_of_ne_zero hzero] at h ⊢
    by_cases hc : c.isDigit
    · rw [if_pos hc] at h ⊢
      rcases hdigits : takeDigits maxSignificand (digitValue c) 0 cs with ⟨m, k, left⟩
      rw [hdigits] at h
      dsimp only at h
      have hleft : left.dropWhile Char.isDigit ≠ [] ∨ Stops more := by
        refine hmore.imp_left fun hrest hnil => hrest ?_
        rw [hnil] at h
        exact (endWhole_append h more).1
      rw [takeDigits_append hdigits (hleft.imp_left ne_nil_of_dropWhile_ne_nil)]
      dsimp only
      rw [takeWhile_isDigit_append hleft, dropWhile_isDigit_append hleft]
      exact extends_readTail _ _ _ h more hmore
    · rw [if_neg hc] at h
      cases h

/-! ### Strings -/

theorem readHex_append {cs rest : List Char} {n : Nat} (h : readHex cs = .ok (n, rest))
    (more : List Char) : readHex (cs ++ more) = .ok (n, rest ++ more) := by
  rw [readHex.eq_def] at h
  split at h
  · split at h
    · cases h
      simp [readHex, *]
    · cases h
  · cases h

theorem readTrailing_unicode (lead : Nat) (cs : List Char) :
    readTrailing lead ('\\' :: 'u' :: cs) =
      match readHex cs with
      | .error e => .error e
      | .ok (trail, rest) =>
        if trail < 0xDC00 || trail > 0xDFFF then .error (.here .loneSurrogate rest)
        else .ok (Char.ofNat (0x10000 + (lead - 0xD800) * 0x400 + (trail - 0xDC00)), rest) := by
  rw [readTrailing]
  cases readHex cs with
  | error e => rfl
  | ok p =>
    simp only [bind, Except.bind]
    split_ifs <;> rfl

theorem readTrailing_append {lead : Nat} {cs rest : List Char} {c : Char}
    (h : readTrailing lead cs = .ok (c, rest)) (more : List Char) :
    readTrailing lead (cs ++ more) = .ok (c, rest ++ more) := by
  have hform := h
  rw [readTrailing.eq_def] at hform
  split at hform
  · cases hform
  · cases hform
  · rw [readTrailing_unicode] at h
    rw [List.cons_append, List.cons_append, readTrailing_unicode]
    split at h
    · cases h
    next trail left hhex =>
    rw [readHex_append hhex]
    dsimp only
    split_ifs at h ⊢
    simp only [Except.ok.injEq, Prod.mk.injEq] at h ⊢
    exact ⟨h.1, h.2 ▸ rfl⟩
  · cases hform
  · cases hform

/-- What an escape of one character stands for. -/
def shortEscape (c : Char) : Option Char :=
  if c = '"' || c = '\\' || c = '/' then some c
  else if c = 'b' then some '\x08'
  else if c = 'f' then some '\x0c'
  else if c = 'n' then some '\n'
  else if c = 'r' then some '\r'
  else if c = 't' then some '\t'
  else none

theorem readEscape_of_ne_unicode {c : Char} (h : c ≠ 'u') (cs : List Char) :
    readEscape (c :: cs) =
      match shortEscape c with
      | some d => .ok (d, cs)
      | none => .error (.next .invalidEscape (c :: cs)) := by
  rw [readEscape, shortEscape]
  split_ifs <;> rfl

theorem readEscape_unicode (cs : List Char) :
    readEscape ('u' :: cs) =
      match readHex cs with
      | .error e => .error e
      | .ok (n, rest) =>
        if 0xDC00 ≤ n && n ≤ 0xDFFF then .error (.here .loneSurrogate rest)
        else if 0xD800 ≤ n && n ≤ 0xDBFF then readTrailing n rest
        else .ok (Char.ofNat n, rest) := by
  have hunicode : readEscape ('u' :: cs) = do
      let p ← readHex cs
      if 0xDC00 ≤ p.1 && p.1 ≤ 0xDFFF then throw (.here .loneSurrogate p.2)
      if 0xD800 ≤ p.1 && p.1 ≤ 0xDBFF then readTrailing p.1 p.2
      else return (Char.ofNat p.1, p.2) := rfl
  rw [hunicode]
  cases readHex cs with
  | error e => rfl
  | ok p =>
    simp only [bind, Except.bind]
    split_ifs <;> rfl

theorem readEscape_append {cs rest : List Char} {c : Char} (h : readEscape cs = .ok (c, rest))
    (more : List Char) : readEscape (cs ++ more) = .ok (c, rest ++ more) := by
  cases cs with
  | nil => cases h
  | cons d cs =>
    rw [List.cons_append]
    by_cases hunicode : d = 'u'
    · subst hunicode
      rw [readEscape_unicode] at h ⊢
      split at h
      · cases h
      next n left hhex =>
      rw [readHex_append hhex]
      dsimp only
      split_ifs at h ⊢
      · exact readTrailing_append h more
      · cases h
        rfl
    rw [readEscape_of_ne_unicode hunicode] at h ⊢
    split at h
    · cases h
      rfl
    · cases h

/-- **A string is read again in front of more text**, whatever it is, and with more fuel. -/
theorem readChars_append {fuel fuel' : Nat} (hfuel : fuel ≤ fuel') {taken cs rest : List Char}
    {s : String} (h : readChars fuel taken cs = .ok (s, rest)) (more : List Char) :
    readChars fuel' taken (cs ++ more) = .ok (s, rest ++ more) := by
  induction fuel generalizing fuel' taken cs with
  | zero => cases h
  | succ fuel ih =>
    obtain ⟨fuel', rfl⟩ : ∃ n, fuel' = n + 1 := ⟨fuel' - 1, by omega⟩
    have hle : fuel ≤ fuel' := Nat.le_of_succ_le_succ hfuel
    cases cs with
    | nil => cases h
    | cons c cs =>
      rw [readChars] at h
      rw [List.cons_append, readChars]
      by_cases hquote : c = '"'
      · rw [if_pos hquote] at h ⊢
        cases h
        rfl
      rw [if_neg hquote] at h ⊢
      by_cases hslash : c = '\\'
      · rw [if_pos hslash] at h ⊢
        split at h
        · next d left hescape =>
          rw [readEscape_append hescape]
          exact ih hle h
        · cases h
      rw [if_neg hslash] at h ⊢
      by_cases hcontrol : c.toNat < 32
      · rw [if_pos hcontrol] at h
        cases h
      · rw [if_neg hcontrol] at h ⊢
        exact ih hle h

theorem readString_append {fuel fuel' : Nat} (hfuel : fuel ≤ fuel') {cs rest : List Char}
    {s : String} (h : readString fuel cs = .ok (s, rest)) (more : List Char) :
    readString fuel' (cs ++ more) = .ok (s, rest ++ more) :=
  readChars_append hfuel h more

/-! ### Values without brackets -/

theorem readWord_append {expected cs rest : List Char} (h : readWord expected cs = .ok rest)
    (more : List Char) : readWord expected (cs ++ more) = .ok (rest ++ more) := by
  induction expected generalizing cs with
  | nil =>
    cases h
    rfl
  | cons e expected ih =>
    cases cs with
    | nil => cases h
    | cons c cs =>
      rw [readWord] at h
      rw [List.cons_append, readWord]
      split_ifs at h ⊢
      exact ih h

theorem readScalar_append {fuel fuel' : Nat} (hfuel : fuel ≤ fuel') {cs rest : List Char}
    {v : Value} (h : readScalar fuel cs = .ok (v, rest)) (more : List Char)
    (hmore : rest ≠ [] ∨ Stops more) :
    readScalar fuel' (cs ++ more) = .ok (v, rest ++ more) := by
  cases cs with
  | nil => cases h
  | cons c cs =>
    rw [readScalar] at h
    rw [List.cons_append, readScalar]
    split_ifs at h ⊢
    · obtain ⟨left, hread, hv⟩ := exists_of_map_eq_ok h
      cases hv
      rw [readWord_append hread]
      rfl
    · obtain ⟨left, hread, hv⟩ := exists_of_map_eq_ok h
      cases hv
      rw [readWord_append hread]
      rfl
    · obtain ⟨left, hread, hv⟩ := exists_of_map_eq_ok h
      cases hv
      rw [readWord_append hread]
      rfl
    · obtain ⟨⟨s, left⟩, hread, hv⟩ := exists_of_map_eq_ok h
      cases hv
      rw [readString_append hfuel hread]
      rfl
    · obtain ⟨⟨n, left⟩, hread, hv⟩ := exists_of_map_eq_ok h
      cases hv
      rw [extends_readNumber _ hread more hmore]
      rfl
    · obtain ⟨⟨n, left⟩, hread, hv⟩ := exists_of_map_eq_ok h
      cases hv
      rw [← List.cons_append, extends_readNumber _ hread more hmore]
      rfl

end Outline.Json
