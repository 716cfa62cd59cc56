import Mathlib.Tactic.SplitIfs
import Outline.Text.Width

/-!
# Bounds on the width of a text

A text is read from the right, one character at a time. In some sequences a character takes back a
cell that was counted for the one behind it, and a base becomes wider than its bytes by the selector
behind it. So neither bound on the sum of cells holds character by character. Both do once they take
in what the reader remembers: `Ahead.owed` are cells that may still be taken back, and `Pending.due`
those that may still come on top. One character keeps both (`bounds_before`), whatever is to its
right. Hence the sum never falls below zero (`scan_nonneg`), and no text is wider than its number of
bytes (`width_le_utf8ByteSize`).

A blank takes part in no sequence, so the widths on both sides of a blank add up
(`width_append_blank`).
-/

namespace Outline.Text

/-- The cells that the next character may take back. -/
def Ahead.owed : Ahead → Int
  | .stackable | .consonantJoiner | .joinedRegion | .joinedOdd => 1
  | _ => 0

/-- The cells that the next character may take beyond its bytes. -/
def Pending.due : Pending → Int
  | .emoji => 1
  | _ => 0

theorem Ahead.owed_nonneg (a : Ahead) : 0 ≤ a.owed := by
  unfold owed
  split <;> decide

theorem Pending.due_nonneg (p : Pending) : 0 ≤ p.due := by
  unfold due
  split <;> decide

/-! ### Bytes of characters -/

theorem Ranges.le_toNat_of_has {t : Ranges} {c : Char} {m : Nat} (h : t.has c = true)
    (ht : ∀ r ∈ t, m ≤ r.1) : m ≤ c.toNat := by
  obtain ⟨r, hr, hlo, -⟩ := Ranges.has_iff.mp h
  exact Nat.le_trans (ht r hr) hlo

theorem le_toNat_of_inRange {lo hi : Nat} {c : Char} (h : inRange lo hi c = true) :
    lo ≤ c.toNat := by
  simp only [inRange, Bool.and_eq_true, decide_eq_true_eq] at h
  exact h.1

/-- Every character takes a byte. -/
theorem le_utf8Size_of_le_one {c : Char} {n : Int} (hn : n ≤ 1) : n ≤ c.utf8Size := by
  have := c.utf8Size_pos
  omega

/-- Characters from U+0800 on take three bytes. -/
theorem le_utf8Size_of_le_three {c : Char} {n : Int} (hc : 0x800 ≤ c.toNat) (hn : n ≤ 3) :
    n ≤ c.utf8Size := by
  have h2 : ¬ c.val ≤ 0x7FF := by
    rw [UInt32.not_le, UInt32.lt_iff_toNat_lt]
    exact hc
  have h1 : ¬ c.val ≤ 0x7F := fun h => h2 (UInt32.le_trans h (by decide))
  have hsize : 3 ≤ c.utf8Size := by
    unfold Char.utf8Size
    extract_lets v
    split_ifs with hv hv'
    · exact absurd hv h1
    · exact absurd hv' h2
    · decide
    · decide
  omega

/-! ### One character -/

/-- The cells of a character leave what is owed covered, and do not exceed its bytes and what was
due. -/
structure Bounds (c : Char) (r : Reading) (p : Int × Reading) : Prop where
  covered : p.2.ahead.owed ≤ r.ahead.owed + p.1
  fits : p.1 + p.2.pending.due ≤ r.pending.due + c.utf8Size

variable {c : Char} {r s : Reading} {p q : Int × Reading} {n : Int} {a b : Ahead} {P : Prop}
  [Decidable P]

theorem Bounds.mono (h : Bounds c r p) (ha : r.ahead.owed ≤ s.ahead.owed)
    (hq : r.pending.due ≤ s.pending.due) : Bounds c s p :=
  ⟨Int.le_trans h.covered (Int.add_le_add_right ha _),
    Int.le_trans h.fits (Int.add_le_add_right hq _)⟩

theorem Bounds.of_bare {q : Pending} (h : Bounds c (.bare a) p) : Bounds c ⟨a, q⟩ p :=
  h.mono (Int.le_refl _) q.due_nonneg

theorem Bounds.of_plain (h : Bounds c (.bare .plain) p) : Bounds c r p :=
  h.mono r.ahead.owed_nonneg r.pending.due_nonneg

theorem Bounds.ite (hp : P → Bounds c r p) (hq : Bounds c r q) :
    Bounds c r (if P then p else q) :=
  iteInduction hp fun _ => hq

theorem Bounds.getD_ite {o : Option (Int × Reading)} (hp : P → Bounds c r p)
    (ho : Bounds c r (o.getD q)) : Bounds c r ((if P then some p else o).getD q) :=
  iteInduction (motive := fun o : Option (Int × Reading) => Bounds c r (o.getD q)) hp fun _ => ho

theorem bounds_bare (ha : b.owed ≤ a.owed + n) (hn : n ≤ c.utf8Size) :
    Bounds c (.bare a) (n, .bare b) := by
  refine ⟨ha, ?_⟩
  change n + 0 ≤ 0 + (c.utf8Size : Int)
  omega

/-- At most one cell fits into any character. -/
theorem bounds_narrow (ha : b.owed ≤ a.owed + n) (hn : n ≤ 1) :
    Bounds c (.bare a) (n, .bare b) := bounds_bare ha (le_utf8Size_of_le_one hn)

/-- Characters of more cells are far up in the code. -/
theorem bounds_wide (hc : 0x800 ≤ c.toNat) (ha : b.owed ≤ a.owed + n) (hn : n ≤ 3) :
    Bounds c (.bare a) (n, .bare b) := bounds_bare ha (le_utf8Size_of_le_three hc hn)

/-- A selector takes no cell, and its bytes make up for what becomes due by it. -/
theorem bounds_selector {q : Pending} (hc : 0x800 ≤ c.toNat) (ha : b.owed ≤ r.ahead.owed) :
    Bounds c r (0, ⟨b, q⟩) := by
  have hq : q.due ≤ 3 := by cases q <;> decide
  have hsize := le_utf8Size_of_le_three hc hq
  have hdue := r.pending.due_nonneg
  refine ⟨?_, ?_⟩
  · rw [Int.add_zero]
    exact ha
  · rw [Int.zero_add]
    change q.due ≤ r.pending.due + c.utf8Size
    omega

theorem le_of_toNat_eq {m : Nat} (h : c.toNat = m) (hm : 0x800 ≤ m) : 0x800 ≤ c.toNat :=
  h ▸ hm

/-- A character that takes part in no sequence. -/
theorem bounds_alone (c : Char) : Bounds c (.bare .plain) (alone c) := by
  have hemoji : ∀ s ∈ emojiPresentation, 0x800 ≤ s.1 := by decide +kernel
  have hdouble : ∀ s ∈ doubleWidth, 0x800 ≤ s.1 := by decide +kernel
  unfold alone
  -- the two selectors
  refine .ite (fun h => bounds_selector (le_of_toNat_eq h (by decide)) (by decide)) ?_
  refine .ite (fun h => bounds_selector (le_of_toNat_eq h (by decide)) (by decide)) ?_
  iterate 2 refine .ite (fun _ => bounds_narrow (by decide) (by decide)) ?_
  -- skin tones and emoji
  refine .ite (fun h => bounds_wide (Nat.le_trans (by decide) (le_toNat_of_inRange h))
    (by decide) (by decide)) ?_
  refine .ite (fun h => bounds_wide (Ranges.le_toNat_of_has h hemoji) (by decide) (by decide)) ?_
  -- letters; only the Khmer ones can be asked to give their cell back
  iterate 9 refine .ite (fun _ => bounds_narrow (by decide) (by decide)) ?_
  refine .ite (fun h => bounds_wide (le_of_toNat_eq h (by decide)) (by decide) (by decide)) ?_
  refine .ite (fun _ => bounds_narrow (by decide) (by decide)) ?_
  refine .ite (fun h => bounds_wide (Ranges.le_toNat_of_has h hdouble) (by decide) (by decide)) ?_
  exact bounds_narrow (by decide) (by decide)

/-- A character in front of what is ahead, be it joined with it or not. -/
theorem bounds_joined (c : Char) (a : Ahead) :
    Bounds c (.bare a) ((joined c a).getD (alone c)) := by
  have hnone : ∀ {a : Ahead}, Bounds c (.bare a) ((none : Option (Int × Reading)).getD (alone c)) :=
    (bounds_alone c).of_plain
  have narrow : ∀ {P : Prop} [Decidable P] {a b : Ahead} {n : Int} {o : Option (Int × Reading)},
      b.owed ≤ a.owed + n → n ≤ 1 → Bounds c (.bare a) (o.getD (alone c)) →
        Bounds c (.bare a) ((if P then some (n, .bare b) else o).getD (alone c)) :=
    fun ha hn => .getD_ite fun _ => bounds_narrow ha hn
  have region : isRegion c = true → 0x800 ≤ c.toNat := fun h =>
    Nat.le_trans (by decide) (le_toNat_of_inRange h)
  cases a with
  | alef => exact narrow (by decide) (by decide) (narrow (by decide) (by decide) hnone)
  | lamed j =>
    cases j with
    | true => exact narrow (by decide) (by decide) hnone
    | false => exact hnone
  | stackable => exact narrow (by decide) (by decide) hnone
  | ya j =>
    cases j with
    | true => exact narrow (by decide) (by decide) hnone
    | false => exact hnone
  | vowelYa => exact narrow (by decide) (by decide) hnone
  | consonant j =>
    exact narrow (Int.le_refl 1) (by decide) (narrow (Int.le_refl 0) (by decide) hnone)
  | consonantJoiner => exact narrow (by decide) (by decide) hnone
  | tone => exact narrow (by decide) (by decide) hnone
  | orkhon j =>
    cases j with
    | true => exact narrow (by decide) (by decide) hnone
    | false => exact hnone
  | vowelE =>
    exact narrow (by decide) (by decide)
      (narrow (by decide) (by decide) (narrow (by decide) (by decide) hnone))
  | vowelAi => exact narrow (by decide) (by decide) hnone
  | skinTone => exact narrow (by decide) (by decide) (narrow (by decide) (by decide) hnone)
  | region => exact narrow (by decide) (by decide) hnone
  | regions => exact narrow (by decide) (by decide) (narrow (by decide) (by decide) hnone)
  | emoji => exact narrow (by decide) (by decide) hnone
  | joinedEmoji =>
    exact narrow (by decide) (by decide) (narrow (by decide) (by decide)
      (narrow (by decide) (by decide) (narrow (by decide) (by decide)
        (narrow (by decide) (by decide) hnone))))
  | joinedRegion => exact narrow (by decide) (by decide) hnone
  | joinedEven =>
    -- the only three cells that a sequence adds at once
    exact .getD_ite (fun h => bounds_wide (region h) (by decide) (by decide))
      (narrow (by decide) (by decide) hnone)
  | joinedOdd => exact narrow (by decide) (by decide) (narrow (by decide) (by decide) hnone)
  | tag letters digits =>
    exact narrow (Int.le_refl 0) (by decide) (narrow (Int.le_refl 0) (by decide)
      (narrow (Int.le_refl 0) (by decide) hnone))
  | wideQuote =>
    refine .getD_ite (fun h => ?_) hnone
    refine bounds_wide ?_ (by decide) (by decide)
    simp only [List.contains_iff_mem, List.mem_cons, List.not_mem_nil, or_false] at h
    omega
  | plain | lineFeed | joinedKeycap => exact hnone

/-- Once the selector is forgotten nothing is due, and more can only be owed for a letter that is
still remembered. -/
theorem Bounds.of_dropPending (h : Bounds c r.dropPending p) : Bounds c r p := by
  have hdue := r.pending.due_nonneg
  unfold Reading.dropPending at h
  split at h
  · exact h
  · split at h
    · exact h.mono (Int.le_refl _) hdue
    · exact h.of_plain

theorem Ahead.owed_join (a : Ahead) : a.join.owed = a.owed := by
  cases a <;> rfl

theorem bounds_beforeSelected (c : Char) (r : Reading) : Bounds c r (beforeSelected c r) := by
  have howed := r.ahead.owed_nonneg
  unfold beforeSelected
  refine .ite (fun _ => (bounds_alone c).of_plain) ?_
  refine .ite (fun h => ?_) ?_
  · have hc := le_of_toNat_eq h (by decide)
    unfold Reading.emojiSelector
    split
    · exact bounds_selector hc (Int.le_refl _)
    · exact bounds_selector hc howed
  refine .ite (fun h => ?_) ?_
  · have hc := le_of_toNat_eq h (by decide)
    unfold Reading.textSelector
    split
    · exact bounds_selector hc (Int.le_refl _)
    · exact bounds_selector hc howed
  refine .ite (fun _ => (bounds_narrow (by decide) (by decide)).of_plain) ?_
  refine .of_dropPending ?_
  -- an invisible sign leaves a letter as it is, any other character meets it
  refine .ite (fun _ => ?_) (bounds_joined c r.dropPending.ahead).of_bare
  refine (bounds_narrow (a := r.dropPending.ahead) ?_ (by decide)).of_bare
  rw [Int.add_zero]
  split
  · exact Int.le_of_eq (Ahead.owed_join _)
  · exact Int.le_refl _

/-- **One character keeps the bounds**, whatever is to its right. -/
theorem bounds_before (c : Char) (r : Reading) : Bounds c r (before c r) := by
  have howed := r.ahead.owed_nonneg
  unfold before
  refine .ite (fun h => ?_) ?_
  · -- the base of a selector takes up to two cells, one more than its bytes may allow
    have hr : r.pending = .emoji := by
      simp only [Bool.and_eq_true, decide_eq_true_eq] at h
      exact h.1
    have hsize := c.utf8Size_pos
    have hcells : (0 : Int) ≤ (if r.ahead.isJoinedEmoji then 0 else 2) ∧
        (if r.ahead.isJoinedEmoji then (0 : Int) else 2) ≤ 2 := by
      split <;> decide
    refine ⟨?_, ?_⟩
    · change 0 ≤ r.ahead.owed + _
      omega
    · rw [hr]
      change _ + 0 ≤ 1 + (c.utf8Size : Int)
      omega
  · have hrest : ∀ s : Reading, Bounds c s
        (if c.toNat ≤ 0xA0 then
          if c = '\n' then (1, .bare .lineFeed)
          else if c = '\r' && s.ahead = .lineFeed then (0, .bare .plain)
          else (1, .bare .plain)
        else beforeSelected c s) := by
      intro s
      refine .ite (fun _ => .ite (fun _ => ?_) (.ite (fun _ => ?_) ?_)) (bounds_beforeSelected c s)
      all_goals exact (bounds_narrow (by decide) (by decide)).of_plain
    by_cases hr : r.pending = .emoji
    · simp only [hr, if_true]
      exact .of_dropPending (hrest _)
    · simp only [hr, if_false]
      exact hrest r

/-! ### Texts -/

/-- The cells of a text, and what is remembered at its left end. -/
def scan (cs : List Char) : Int × Reading :=
  cs.foldr (fun c p => (p.1 + (before c p.2).1, (before c p.2).2)) (0, .bare .plain)

theorem width_eq (s : String) : width s = (scan s.toList).1.toNat := rfl

theorem scan_cons (c : Char) (cs : List Char) :
    scan (c :: cs) = ((scan cs).1 + (before c (scan cs).2).1, (before c (scan cs).2).2) := rfl

/-- The number of bytes of a text. -/
def bytes : List Char → Nat
  | [] => 0
  | c :: cs => c.utf8Size + bytes cs

theorem bytes_cons (c : Char) (cs : List Char) : bytes (c :: cs) = c.utf8Size + bytes cs := rfl

theorem bytes_eq_utf8ByteSize (cs : List Char) : bytes cs = (String.ofList cs).utf8ByteSize := by
  induction cs with
  | nil => rfl
  | cons c cs ih =>
    have hcons : String.ofList (c :: cs) = String.singleton c ++ String.ofList cs := by
      rw [String.singleton_eq_ofList, ← String.ofList_append]
      rfl
    rw [bytes_cons, ih, hcons, String.utf8ByteSize_append, String.utf8ByteSize_singleton]

/-- **The sum of cells covers what is owed, and with what is due it does not exceed the bytes.** -/
theorem scan_bounds (cs : List Char) :
    (scan cs).2.ahead.owed ≤ (scan cs).1 ∧ (scan cs).1 + (scan cs).2.pending.due ≤ bytes cs := by
  induction cs with
  | nil => exact ⟨by decide, by decide⟩
  | cons c cs ih =>
    obtain ⟨hcovered, hfits⟩ := bounds_before c (scan cs).2
    rw [scan_cons, bytes_cons]
    refine ⟨?_, ?_⟩
    · simp only
      omega
    · simp only
      omega

theorem scan_nonneg (cs : List Char) : 0 ≤ (scan cs).1 :=
  Int.le_trans (Ahead.owed_nonneg _) (scan_bounds cs).1

theorem width_eq_scan (s : String) : (width s : Int) = (scan s.toList).1 := by
  rw [width_eq, Int.toNat_of_nonneg (scan_nonneg _)]

/-- **No text is wider than its number of bytes.** -/
theorem width_le_utf8ByteSize (s : String) : width s ≤ s.utf8ByteSize := by
  have hfits := (scan_bounds s.toList).2
  have hdue := (scan s.toList).2.pending.due_nonneg
  rw [bytes_eq_utf8ByteSize, String.ofList_toList, ← width_eq_scan] at hfits
  omega

/-! ### Blanks -/

/-- A blank takes one cell, and forgets all that is to its right. -/
theorem before_blank (r : Reading) : before ' ' r = (1, .bare .plain) := by
  have hbase : emojiSelectable.has ' ' = false := by decide
  have hlow : ' '.toNat ≤ 0xA0 := by decide
  unfold before
  rw [hbase, Bool.and_false, if_neg Bool.false_ne_true]
  simp only [if_pos hlow]
  rfl

theorem scan_blank (cs : List Char) : scan (' ' :: cs) = ((scan cs).1 + 1, .bare .plain) := by
  rw [scan_cons, before_blank]

/-- What is counted further right is only added, if nothing of it is remembered. -/
theorem scan_append_of_bare {cs ds : List Char} (h : (scan ds).2 = .bare .plain) :
    scan (cs ++ ds) = ((scan cs).1 + (scan ds).1, (scan cs).2) := by
  induction cs with
  | nil =>
    rw [List.nil_append, Prod.ext_iff]
    exact ⟨(Int.zero_add _).symm, h⟩
  | cons c cs ih =>
    rw [List.cons_append, scan_cons, ih, scan_cons]
    simp only [Prod.mk.injEq, and_true]
    omega

/-- **Widths on both sides of a blank add up.** -/
theorem width_append_blank (s t : String) : width (s ++ " " ++ t) = width s + 1 + width t := by
  have hlist : (s ++ " " ++ t).toList = s.toList ++ ' ' :: t.toList := by simp
  have hscan : (scan (' ' :: t.toList)).2 = .bare .plain := by rw [scan_blank]
  have hsum : (width (s ++ " " ++ t) : Int) = width s + 1 + width t := by
    rw [width_eq_scan, width_eq_scan, width_eq_scan, hlist, scan_append_of_bare hscan, scan_blank]
    simp only
    omega
  omega

end Outline.Text
