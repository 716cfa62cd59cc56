import Outline.Proofs.Json.RoundTrip
import Outline.Proofs.Json.Token

/-!
# Values in front of more text

A value that was read on its own is read again where it stands within a larger text
(`readValue_append`): with more text behind it, with more fuel, and with any budget that its
brackets fit into.

Brackets end by themselves, and so do the loops over items and members: while a loop goes on
something is left behind each content, and the bracket that ends the loop is its own. So only a
number that stands alone asks for something about the text behind.
-/

namespace Outline.Json

/-- The good ones among the first reader's answers are answers of the second with more text behind,
if the end of a number is settled. -/
def ExtendsOn {ε φ α : Type} (good : α → Prop) (r : Reader ε α) (r' : Reader φ α) : Prop :=
  ∀ ⦃cs a rest⦄, r cs = .ok (a, rest) → good a → ∀ more, rest ≠ [] ∨ Stops more →
    r' (cs ++ more) = .ok (a, rest ++ more)

/-! ### Blanks -/

theorem skipBlanks_append_of_ne_nil {cs : List Char} (h : skipBlanks cs ≠ [])
    (more : List Char) : skipBlanks (cs ++ more) = skipBlanks cs ++ more := by
  rw [skipBlanks, List.dropWhile_append, if_neg (by simpa [skipBlanks] using h)]
  rfl

theorem skipBlanks_append {cs rest : List Char} {c : Char} (h : skipBlanks cs = c :: rest)
    (more : List Char) : skipBlanks (cs ++ more) = c :: (rest ++ more) := by
  rw [skipBlanks_append_of_ne_nil (h ▸ List.cons_ne_nil _ _), h]
  rfl

theorem isBlank_of_skipBlanks {cs rest : List Char} {c : Char} (h : skipBlanks cs = c :: rest) :
    isBlank c = false := by
  have hhead := List.head?_dropWhile_not isBlank cs
  rw [← skipBlanks, h] at hhead
  exact hhead

theorem skipBlanks_skipBlanks (cs : List Char) : skipBlanks (skipBlanks cs) = skipBlanks cs := by
  cases h : skipBlanks cs with
  | nil => rfl
  | cons c rest => rw [skipBlanks_cons (isBlank_of_skipBlanks h)]

/-! ### Between the contents of brackets -/

theorem nextItem_eq_end_iff {first : Bool} {cs rest : List Char} :
    nextItem first cs = .ok (false, rest) ↔ skipBlanks cs = ']' :: rest := by
  constructor
  · intro h
    rw [nextItem] at h
    split at h
    · cases h
    · next hcs =>
      cases h
      exact hcs
    · split_ifs at h
      · cases h
      · split at h <;> cases h
  · intro h
    simp only [nextItem, h]

/-- An item comes next behind the comma, if one is due, and the blanks around it. -/
theorem nextItem_eq_item_iff {first : Bool} {cs rest : List Char} :
    nextItem first cs = .ok (true, rest) ↔
      Opens rest ∧ ∃ before, skipBlanks cs = separator first ++ before ∧
        skipBlanks before = rest := by
  constructor
  · intro h
    rw [nextItem] at h
    split at h
    · cases h
    · cases h
    · next c t hend hcs =>
      split_ifs at h with hfirst hcomma
      · cases h
        subst hfirst
        have hblank := isBlank_of_skipBlanks hcs
        have hc : c ≠ ']' := hend
        exact ⟨⟨c, t, rfl, hblank, hc⟩, c :: t, hcs, skipBlanks_cons hblank t⟩
      · rw [Bool.not_eq_true] at hfirst
        subst hfirst hcomma
        split at h
        · cases h
        · cases h
        · next hnil hend' =>
          cases h
          refine ⟨?_, t, hcs, rfl⟩
          cases ht : skipBlanks t with
          | nil => exact absurd ht hnil
          | cons d u => exact ⟨d, u, rfl, isBlank_of_skipBlanks ht, fun hd => hend' u (hd ▸ ht)⟩
  · rintro ⟨⟨c, t, rfl, hblank, hc⟩, before, hcs, hbefore⟩
    cases first with
    | true =>
      have hcs' : skipBlanks cs = c :: t := by
        rw [← hbefore, ← skipBlanks_skipBlanks cs, hcs, separator_true, List.nil_append]
      simp [nextItem, hcs']
    | false =>
      rw [separator_false, List.singleton_append] at hcs
      simp [nextItem, hcs, hbefore, hc]

theorem separator_append_ne_nil {first : Bool} {cs before : List Char}
    (hcs : skipBlanks cs = separator first ++ before) (hbefore : skipBlanks before ≠ []) :
    skipBlanks cs ≠ [] := by
  intro hnil
  rw [hcs, List.append_eq_nil_iff] at hnil
  rw [hnil.2] at hbefore
  exact hbefore rfl

theorem nextItem_append {first goes : Bool} {cs rest : List Char}
    (h : nextItem first cs = .ok (goes, rest)) (more : List Char) :
    nextItem first (cs ++ more) = .ok (goes, rest ++ more) := by
  cases goes with
  | false => exact nextItem_eq_end_iff.mpr (skipBlanks_append (nextItem_eq_end_iff.mp h) more)
  | true =>
    obtain ⟨hopens, before, hcs, hbefore⟩ := nextItem_eq_item_iff.mp h
    have hrest : skipBlanks before ≠ [] := by
      obtain ⟨c, t, hc, -, -⟩ := hopens
      rw [hbefore, hc]
      exact List.cons_ne_nil c t
    have hnonempty := separator_append_ne_nil hcs hrest
    refine nextItem_eq_item_iff.mpr ⟨hopens.append more, before ++ more, ?_, ?_⟩
    · rw [skipBlanks_append_of_ne_nil hnonempty, hcs, List.append_assoc]
    · rw [skipBlanks_append_of_ne_nil hrest, hbefore]

/-- The items taken before are among those that the loop returns. -/
theorem mem_of_mem_taken_readItems {ε α : Type} {lift : SyntaxError → ε} {item : Reader ε α}
    {fuel : Nat} {first : Bool} {taken as : List α} {cs rest : List Char}
    (h : readItems lift item fuel first taken cs = .ok (as, rest)) {a : α} (ha : a ∈ taken) :
    a ∈ as := by
  induction fuel generalizing first taken cs with
  | zero => cases h
  | succ fuel ih =>
    rw [readItems] at h
    split at h
    · cases h
    · cases h
      exact List.mem_reverse.mpr ha
    · split at h
      · cases h
      · exact ih h (List.mem_cons_of_mem _ ha)

/-- The loop over items goes on as it did if the reader of items does. Only the brackets that the
loop itself reads end it, so that nothing is asked of what stands behind. -/
theorem readItems_append {ε φ α : Type} {lift : SyntaxError → ε} {lift' : SyntaxError → φ}
    {good : α → Prop} {item : Reader ε α} {item' : Reader φ α} (hitem : ExtendsOn good item item')
    {fuel fuel' : Nat} (hfuel : fuel ≤ fuel') {first : Bool} {taken as : List α}
    {cs rest : List Char} (h : readItems lift item fuel first taken cs = .ok (as, rest))
    (has : ∀ a ∈ as, good a) (more : List Char) :
    readItems lift' item' fuel' first taken (cs ++ more) = .ok (as, rest ++ more) := by
  induction fuel generalizing fuel' first taken cs with
  | zero => cases h
  | succ fuel ih =>
    obtain ⟨fuel', rfl⟩ : ∃ n, fuel' = n + 1 := ⟨fuel' - 1, by omega⟩
    have hle : fuel ≤ fuel' := Nat.le_of_succ_le_succ hfuel
    rw [readItems] at h ⊢
    split at h
    · cases h
    · next hnext =>
      cases h
      rw [nextItem_append hnext]
    · next here hnext =>
      rw [nextItem_append hnext]
      split at h
      · cases h
      · next v there hread =>
        have hthere : there ≠ [] := by
          rintro rfl
          cases fuel <;> cases h
        have hv := has v (mem_of_mem_taken_readItems h List.mem_cons_self)
        dsimp only
        rw [hitem hread hv more (.inl hthere)]
        exact ih hle h

theorem readName_eq_ok_iff {fuel : Nat} {cs rest : List Char} {key : Option String} :
    (do let (k, rest) ← readString fuel cs
        return (some k, rest) : Except (Fault SyntaxError) (Option String × List Char)) =
      .ok (key, rest) ↔ ∃ k, key = some k ∧ readString fuel cs = .ok (k, rest) := by
  cases readString fuel cs with
  | error e => simp [bind, Except.bind]
  | ok p =>
    obtain ⟨k, left⟩ := p
    constructor
    · intro h
      cases h
      exact ⟨k, rfl, rfl⟩
    · rintro ⟨_, rfl, h⟩
      cases h
      rfl

/-- The members end, or a name comes next behind the comma, if one is due, and the blanks around
it. -/
theorem nextKey_eq_ok_iff {fuel : Nat} {first : Bool} {cs rest : List Char}
    {key : Option String} :
    nextKey fuel first cs = .ok (key, rest) ↔
      key = none ∧ skipBlanks cs = '\x7d' :: rest ∨
      ∃ k before inner, key = some k ∧ skipBlanks cs = separator first ++ before ∧
        skipBlanks before = '"' :: inner ∧ readString fuel inner = .ok (k, rest) := by
  constructor
  · intro h
    rw [nextKey] at h
    split at h
    · cases h
    · next hcs =>
      cases h
      exact .inl ⟨rfl, hcs⟩
    · next c t hend hcs =>
      split_ifs at h with hfirst hquote hcomma
      · subst hfirst hquote
        obtain ⟨k, hkey, hread⟩ := readName_eq_ok_iff.mp h
        exact .inr ⟨k, _, t, hkey, hcs, skipBlanks_cons (by decide) t, hread⟩
      · rw [Bool.not_eq_true] at hfirst
        subst hfirst hcomma
        split at h
        · cases h
        · next inner ht =>
          obtain ⟨k, hkey, hread⟩ := readName_eq_ok_iff.mp h
          exact .inr ⟨k, t, inner, hkey, hcs, ht, hread⟩
        · cases h
        · cases h
  · rintro (⟨rfl, hcs⟩ | ⟨k, before, inner, rfl, hcs, hbefore, hread⟩)
    · simp only [nextKey, hcs]
    · have hname := readName_eq_ok_iff.mpr ⟨k, rfl, hread⟩
      cases first with
      | true =>
        have hcs' : skipBlanks cs = '"' :: inner := by
          rw [← hbefore, ← skipBlanks_skipBlanks cs, hcs, separator_true, List.nil_append]
        simpa [nextKey, hcs'] using hname
      | false =>
        rw [separator_false, List.singleton_append] at hcs
        simpa [nextKey, hcs, hbefore] using hname

theorem nextKey_append {fuel fuel' : Nat} (hfuel : fuel ≤ fuel') {first : Bool}
    {cs rest : List Char} {key : Option String} (h : nextKey fuel first cs = .ok (key, rest))
    (more : List Char) : nextKey fuel' first (cs ++ more) = .ok (key, rest ++ more) := by
  rcases nextKey_eq_ok_iff.mp h with ⟨rfl, hcs⟩ | ⟨k, before, inner, rfl, hcs, hbefore, hread⟩
  · exact nextKey_eq_ok_iff.mpr (.inl ⟨rfl, skipBlanks_append hcs more⟩)
  · have hnonempty := separator_append_ne_nil hcs (hbefore ▸ List.cons_ne_nil _ _)
    refine nextKey_eq_ok_iff.mpr (.inr ⟨k, before ++ more, inner ++ more, rfl, ?_,
      skipBlanks_append hbefore more, readString_append hfuel hread more⟩)
    rw [skipBlanks_append_of_ne_nil hnonempty, hcs, List.append_assoc]

theorem readColon_append {cs rest : List Char} (h : readColon cs = .ok rest) (more : List Char) :
    readColon (cs ++ more) = .ok (rest ++ more) := by
  rw [readColon] at h
  split at h
  · cases h
  · next hcs =>
    cases h
    simp only [readColon, skipBlanks_append hcs more]
  · cases h

/-- The members taken before are among those that the loop returns. -/
theorem mem_of_mem_taken_readMembers {α : Type} {item : Reader SyntaxError α} {total fuel : Nat}
    {first : Bool} {taken ms : List (String × α)} {cs rest : List Char}
    (h : readMembers item total fuel first taken cs = .ok (ms, rest)) {m : String × α}
    (hm : m ∈ taken) : m ∈ ms := by
  induction fuel generalizing first taken cs with
  | zero => cases h
  | succ fuel ih =>
    rw [readMembers] at h
    split at h
    · cases h
    · cases h
      exact List.mem_reverse.mpr hm
    · split at h
      · cases h
      · split at h
        · cases h
        · exact ih h (List.mem_cons_of_mem _ hm)

/-- The loop over members goes on as it did if the reader of their values does. -/
theorem readMembers_append {α : Type} {good : α → Prop} {item item' : Reader SyntaxError α}
    (hitem : ExtendsOn good item item') {total total' : Nat} (htotal : total ≤ total')
    {fuel fuel' : Nat} (hfuel : fuel ≤ fuel') {first : Bool} {taken ms : List (String × α)}
    {cs rest : List Char} (h : readMembers item total fuel first taken cs = .ok (ms, rest))
    (hms : ∀ m ∈ ms, good m.2) (more : List Char) :
    readMembers item' total' fuel' first taken (cs ++ more) = .ok (ms, rest ++ more) := by
  induction fuel generalizing fuel' first taken cs with
  | zero => cases h
  | succ fuel ih =>
    obtain ⟨fuel', rfl⟩ : ∃ n, fuel' = n + 1 := ⟨fuel' - 1, by omega⟩
    have hle : fuel ≤ fuel' := Nat.le_of_succ_le_succ hfuel
    rw [readMembers] at h ⊢
    split at h
    · cases h
    · next hnext =>
      cases h
      rw [nextKey_append htotal hnext]
    · next k named hnext =>
      rw [nextKey_append htotal hnext]
      split at h
      · cases h
      next here hcolon =>
      dsimp only
      rw [readColon_append hcolon]
      split at h
      · cases h
      next v there hread =>
      -- the loop goes on, and so something is left behind the value
      have hthere : there ≠ [] := by
        rintro rfl
        cases fuel <;> cases h
      have hv := hms (k, v) (mem_of_mem_taken_readMembers h List.mem_cons_self)
      dsimp only
      rw [hitem hread hv more (.inl hthere)]
      exact ih hle h

/-! ### Values -/

theorem readValue_skipBlanks (fuel budget : Nat) (cs : List Char) :
    readValue fuel budget (skipBlanks cs) = readValue fuel budget cs := by
  cases budget <;> simp only [readValue, skipBlanks_skipBlanks]

/-- A value that is read is an array, an object, or one without brackets, as its first character
says. -/
theorem readValue_eq_ok_cases {fuel budget : Nat} {cs rest : List Char} {v : Value}
    (h : readValue fuel budget cs = .ok (v, rest)) : ∃ c t, skipBlanks cs = c :: t ∧
      ((∃ b vs, c = '[' ∧ budget = b + 1 ∧ v = .array vs ∧
          readArray id (readValue fuel b) fuel t = .ok (vs, rest)) ∨
        (∃ b ms, c = '\x7b' ∧ budget = b + 1 ∧ v = .object ms ∧
          readObject (readValue fuel b) fuel t = .ok (ms, rest)) ∨
        c ≠ '[' ∧ c ≠ '\x7b' ∧ readScalar fuel (c :: t) = .ok (v, rest)) := by
  rw [← readValue_skipBlanks] at h
  cases hcs : skipBlanks cs with
  | nil =>
    rw [hcs] at h
    cases budget <;> cases h
  | cons c t =>
    have hblank := isBlank_of_skipBlanks hcs
    rw [hcs] at h
    refine ⟨c, t, rfl, ?_⟩
    by_cases harray : c = '['
    · subst harray
      cases budget with
      | zero => cases h
      | succ b =>
        obtain ⟨⟨vs, left⟩, hread, hv⟩ := exists_of_map_eq_ok h
        cases hv
        exact .inl ⟨b, vs, rfl, rfl, rfl, hread⟩
    by_cases hobject : c = '\x7b'
    · subst hobject
      cases budget with
      | zero => cases h
      | succ b =>
        obtain ⟨⟨ms, left⟩, hread, hv⟩ := exists_of_map_eq_ok h
        cases hv
        exact .inr (.inl ⟨b, ms, rfl, rfl, rfl, hread⟩)
    rw [readValue_of_scalar hblank harray hobject] at h
    exact .inr (.inr ⟨harray, hobject, h⟩)

/-- **A value is read again in front of more text**, with more fuel and with any budget that its
brackets fit into, if its end is settled. -/
theorem readValue_append {fuel fuel' : Nat} (hfuel : fuel ≤ fuel') (budget budget' : Nat) :
    ExtendsOn (fun v => v.nesting ≤ budget') (readValue fuel budget) (readValue fuel' budget') := by
  induction budget using Nat.strongRecOn generalizing budget' with
  | ind budget ih =>
    intro cs v rest h hv more hmore
    obtain ⟨c, t, hcs, hvalue⟩ := readValue_eq_ok_cases h
    have hblank := isBlank_of_skipBlanks hcs
    rw [← readValue_skipBlanks, skipBlanks_append hcs]
    obtain ⟨b, vs, rfl, rfl, rfl, hread⟩ | ⟨b, ms, rfl, rfl, rfl, hread⟩ |
      ⟨harray, hobject, hread⟩ := hvalue
    · obtain ⟨b', rfl⟩ := Nat.exists_eq_add_one.mpr (Nat.lt_of_lt_of_le (Nat.succ_pos _) hv)
      rw [Value.nesting, Nat.add_le_add_iff_right, Value.nestingOfItems_le_iff] at hv
      have hitems : readArray id (readValue fuel' b') fuel' (t ++ more) = .ok (vs, rest ++ more) :=
        readItems_append (ih b (Nat.lt_succ_self b) b') hfuel hread hv more
      simp only [readValue, skipBlanks_cons hblank, hitems, Except.map]
    · obtain ⟨b', rfl⟩ := Nat.exists_eq_add_one.mpr (Nat.lt_of_lt_of_le (Nat.succ_pos _) hv)
      rw [Value.nesting, Nat.add_le_add_iff_right, Value.nestingOfMembers_le_iff] at hv
      have hmembers : readObject (readValue fuel' b') fuel' (t ++ more) =
          .ok (ms, rest ++ more) :=
        readMembers_append (ih b (Nat.lt_succ_self b) b') hfuel hfuel hread hv more
      simp only [readValue, skipBlanks_cons hblank, hmembers, Except.map]
    · rw [readValue_of_scalar hblank harray hobject]
      exact readScalar_append hfuel hread more hmore

end Outline.Json
