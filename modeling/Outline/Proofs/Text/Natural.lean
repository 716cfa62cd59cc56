import Mathlib.Data.List.Induction
import Mathlib.Data.List.TakeWhile
import Mathlib.Data.Nat.Digits.Defs
import Outline.Text.Natural

/-!
# Which texts are numbers

A number of a setting is spelled by decimal digits, zeros in front of it included, with or without a
plus sign (`Spells`); `natural?_eq_some_iff` says that these texts are read and no others. Blanks
around a number do not matter (`natural?_trim_eq_some_iff`), since no character of a number is one
and so trimming finds the number wherever it stands between blanks (`trim_append`).
-/

namespace Outline.Text

variable {cs ds : List Char} {n : Nat}

/-! ### Numbers -/

/-- The text spells the number: it has a plus sign or none, and then one or more decimal digits,
the first of which counts most. The number fits into 64 bits. -/
structure Spells (cs : List Char) (n : Nat) : Prop where
  /-- There are digits behind the sign, and their value is the number. -/
  digits : ∃ sign ds, cs = sign ++ ds ∧ (sign = [] ∨ sign = ['+']) ∧ ds ≠ [] ∧
    (∀ c ∈ ds, c.isDigit = true) ∧
      Nat.ofDigits 10 (ds.reverse.map fun c => c.toNat - '0'.toNat) = n
  /-- The number is not too large. -/
  lt : n < 2 ^ 64

theorem decimalValue_eq_ofDigits (ds : List Char) :
    decimalValue ds = Nat.ofDigits 10 (ds.reverse.map fun c => c.toNat - '0'.toNat) := by
  induction ds using List.reverseRecOn with
  | nil => rfl
  | append_singleton ds c ih =>
    rw [decimalValue, List.foldl_append, List.foldl_cons, List.foldl_nil, ← decimalValue, ih,
      List.reverse_append, List.reverse_singleton, List.singleton_append, List.map_cons,
      Nat.ofDigits_cons, Nat.mul_comm, Nat.add_comm]
    rfl

theorem exists_sign (cs : List Char) :
    ∃ sign, cs = sign ++ unsigned cs ∧ (sign = [] ∨ sign = ['+']) := by
  unfold unsigned
  split
  · exact ⟨['+'], rfl, .inr rfl⟩
  · exact ⟨[], rfl, .inl rfl⟩

theorem unsigned_append {sign : List Char} (hsign : sign = [] ∨ sign = ['+'])
    (hds : ∀ c ∈ ds, c.isDigit = true) : unsigned (sign ++ ds) = ds := by
  rcases hsign with rfl | rfl
  · unfold unsigned
    rw [List.nil_append]
    split
    · exact absurd (hds '+' List.mem_cons_self) (by decide)
    · rfl
  · rfl

/-- **The texts that are read are those that spell a number.** -/
theorem natural?_eq_some_iff : natural? cs = some n ↔ Spells cs n := by
  constructor
  · intro h
    rw [natural?] at h
    split at h
    · next hds =>
      simp only [Bool.and_eq_true, List.all_eq_true, Bool.not_eq_true', decide_eq_true_eq] at hds
      obtain ⟨⟨hne, hdigits⟩, hlt⟩ := hds
      obtain rfl := Option.some.inj h
      obtain ⟨sign, hcs, hsign⟩ := exists_sign cs
      exact ⟨⟨sign, unsigned cs, hcs, hsign, List.isEmpty_eq_false_iff.mp hne, hdigits,
        (decimalValue_eq_ofDigits _).symm⟩, hlt⟩
    · cases h
  · rintro ⟨⟨sign, ds, rfl, hsign, hne, hdigits, hvalue⟩, hlt⟩
    rw [← decimalValue_eq_ofDigits] at hvalue
    rw [natural?, unsigned_append hsign hdigits, hvalue, if_pos]
    simp only [Bool.and_eq_true, List.all_eq_true, Bool.not_eq_true', decide_eq_true_eq]
    exact ⟨⟨List.isEmpty_eq_false_iff.mpr hne, hdigits⟩, hlt⟩

/-! ### Blanks -/

/-- A text without blanks at its ends is found between blanks. -/
theorem trim_append {before core after : List Char} (hbefore : ∀ c ∈ before, blanks.has c = true)
    (hafter : ∀ c ∈ after, blanks.has c = true) (hhead : ∀ c ∈ core.head?, blanks.has c = false)
    (hlast : ∀ c ∈ core.getLast?, blanks.has c = false) (hne : core ≠ []) :
    trim (before ++ core ++ after) = core := by
  have hstop : ∀ {cs : List Char}, (∀ c ∈ cs.head?, blanks.has c = false) →
      cs.dropWhile blanks.has = cs := by
    intro cs h
    cases cs with
    | nil => rfl
    | cons c cs => rw [List.dropWhile_cons, h c rfl, if_neg Bool.false_ne_true]
  have hfront : (core ++ after).dropWhile blanks.has = core ++ after := by
    refine hstop fun c hc => hhead c ?_
    obtain ⟨x, xs, rfl⟩ := List.exists_cons_of_ne_nil hne
    exact hc
  rw [trim, List.append_assoc, List.dropWhile_append_of_pos hbefore, hfront, List.reverse_append,
    List.dropWhile_append_of_pos fun c hc => hafter c (List.mem_reverse.mp hc),
    hstop (by rwa [List.head?_reverse]), List.reverse_reverse]

theorem exists_blanks (cs : List Char) :
    ∃ before after, cs = before ++ trim cs ++ after ∧ (∀ c ∈ before, blanks.has c = true) ∧
      ∀ c ∈ after, blanks.has c = true := by
  let rest := cs.dropWhile blanks.has
  refine ⟨cs.takeWhile blanks.has, (rest.reverse.takeWhile blanks.has).reverse, ?_,
    fun c hc => List.mem_takeWhile_imp hc,
    fun c hc => List.mem_takeWhile_imp (List.mem_reverse.mp hc)⟩
  rw [trim, List.append_assoc, ← List.reverse_append, List.takeWhile_append_dropWhile,
    List.reverse_reverse, List.takeWhile_append_dropWhile]

/-- No character of a number is blank. -/
theorem Spells.not_blank (h : Spells cs n) : ∀ c ∈ cs, blanks.has c = false := by
  obtain ⟨sign, ds, rfl, hsign, -, hdigits, -⟩ := h.digits
  have hplus : ∀ c ∈ sign, blanks.has c = false := by
    rcases hsign with rfl | rfl
    · exact fun c hc => absurd hc List.not_mem_nil
    · exact fun c hc => List.mem_singleton.mp hc ▸ by decide
  intro c hc
  rcases List.mem_append.mp hc with hc | hc
  · exact hplus c hc
  · have hrange : 48 ≤ c.toNat ∧ c.toNat ≤ 57 := by
      simpa [Char.isDigit, UInt32.le_iff_toNat_le] using hdigits c hc
    have hout : ¬ ∃ r ∈ blanks, r.1 ≤ c.toNat ∧ c.toNat ≤ r.2 := by
      simp [blanks]
      omega
    rwa [Bool.eq_false_iff, Ne, Ranges.has_iff]

/-- **Blanks around a number do not matter.** -/
theorem natural?_trim_eq_some_iff :
    natural? (trim cs) = some n ↔
      ∃ before core after, cs = before ++ core ++ after ∧ (∀ c ∈ before, blanks.has c = true) ∧
        (∀ c ∈ after, blanks.has c = true) ∧ Spells core n := by
  rw [natural?_eq_some_iff]
  constructor
  · intro h
    obtain ⟨before, after, hcs, hbefore, hafter⟩ := exists_blanks cs
    exact ⟨before, trim cs, after, hcs, hbefore, hafter, h⟩
  · rintro ⟨before, core, after, rfl, hbefore, hafter, h⟩
    have hne : core ≠ [] := by
      obtain ⟨sign, ds, rfl, -, hds, -⟩ := h.digits
      exact List.append_ne_nil_of_right_ne_nil _ hds
    rwa [trim_append hbefore hafter (fun c hc => h.not_blank c (List.mem_of_mem_head? hc))
      (fun c hc => h.not_blank c (List.mem_of_mem_getLast? hc)) hne]

end Outline.Text
