import Outline.Files

/-!
# Files that look alike

Two trees of files are alike if the same directories and files stand in them at the same places,
and the bytes of each two files are related (`Entry.Alike`). A path leads to the same place in both
(`Files.Alike.resolve`), so whatever is done to both of them answers the same and leaves them alike:
putting entries, making directories, opening a file and adding text to it.

Everything rests on what stands where names lead, `Entry.sight`, which is all that the operations
look at.
-/

namespace Outline

namespace Entry

/-- The bytes of a file; a directory has none. -/
def bytes? : Entry → Option ByteArray
  | file content => some content
  | directory _ => none

/-- What stands where names lead: nothing, a directory, or a file with its bytes. -/
def sight (e : Entry) (place : List String) : Option (Option ByteArray) :=
  (e.find? place).map bytes?

/-- The same stands at each place, up to a relation between the bytes of files. -/
def Alike (same : ByteArray → ByteArray → Prop) (e e' : Entry) : Prop :=
  ∀ place, Option.Rel (Option.Rel same) (e.sight place) (e'.sight place)

variable {same : ByteArray → ByteArray → Prop}

theorem Alike.refl (hsame : ∀ c, same c c) (e : Entry) : e.Alike same e := by
  intro place
  cases e.sight place with
  | none => exact .none
  | some b =>
    cases b with
    | none => exact .some .none
    | some c => exact .some (.some (hsame c))

/-- The entry of a name within another entry. -/
def child (root : Entry) (name : String) : Option Entry :=
  match root with
  | directory es => lookup name es
  | file _ => none

theorem sight_cons (root : Entry) (name : String) (place : List String) :
    root.sight (name :: place) = (root.child name).bind fun e => e.sight place := by
  cases root with
  | file content => rfl
  | directory es =>
    rw [sight, find?, child]
    cases lookup name es <;> rfl

/-! ### Putting an entry -/

theorem lookup_cons (name key : String) (e : Entry) (es : List (String × Entry)) :
    lookup name ((key, e) :: es) = if key = name then some e else lookup name es := by
  by_cases h : key = name <;> simp [lookup, h]

theorem lookup_append_single (other name : String) (e : Entry) (es : List (String × Entry)) :
    lookup other (es ++ [(name, e)]) =
      (lookup other es).or (if name = other then some e else none) := by
  induction es with
  | nil =>
    rw [List.nil_append, lookup_cons]
    rfl
  | cons x es ih =>
    obtain ⟨key, x⟩ := x
    rw [List.cons_append, lookup_cons, lookup_cons, ih]
    split <;> rfl

theorem lookup_map (other name : String) (e : Entry) (es : List (String × Entry)) :
    lookup other (es.map fun x => if x.1 == name then (name, e) else x) =
      if other = name then (lookup name es).map fun _ => e else lookup other es := by
  induction es with
  | nil => simp [lookup]
  | cons x es ih =>
    obtain ⟨key, x⟩ := x
    rw [List.map_cons, lookup_cons name, lookup_cons other key]
    by_cases hkey : key = name
    · subst hkey
      simp only [beq_self_eq_true, if_true, lookup_cons, ih]
      by_cases hother : key = other
      · simp [hother]
      · simp [hother, Ne.symm hother]
    · simp only [beq_eq_false_iff_ne.mpr hkey, Bool.false_eq_true, if_false, lookup_cons, ih, hkey]
      by_cases hother : key = other
      · subst hother
        simp [hkey]
      · simp [hother]

/-- A changed entry is found under its name, and nothing changes under the others. -/
theorem lookup_update (other name : String) (e : Entry) (es : List (String × Entry)) :
    lookup other (update name e es) = if other = name then some e else lookup other es := by
  rw [update]
  cases hes : lookup name es with
  | none =>
    rw [Option.isSome_none, if_neg (by simp), lookup_append_single]
    by_cases h : other = name
    · simp [h, hes]
    · simp [h, Ne.symm h]
  | some x =>
    rw [Option.isSome_some, if_pos rfl, lookup_map, hes]
    rfl

/-- An entry is put into what stands under the first of the names, or into a new directory. -/
theorem child_insert (e root : Entry) (name : String) (names : List String) (other : String) :
    (insert e (name :: names) root).child other =
      if other = name then some (insert e names ((root.child name).getD (directory [])))
      else root.child other := by
  cases root with
  | file content =>
    rw [insert, child, lookup_cons]
    by_cases h : other = name
    · simp [h, child]
    · simp [h, Ne.symm h, child, lookup]
  | directory es =>
    rw [insert, child, lookup_update]
    rfl

theorem bytes?_insert_cons (e root : Entry) (name : String) (names : List String) :
    (insert e (name :: names) root).bytes? = none := by
  cases root <;> rfl

/-- The entries of a name in alike trees: none in both, or two that are alike. -/
theorem Alike.child_cases {e e' : Entry} (h : e.Alike same e') (name : String) :
    (e.child name = none ∧ e'.child name = none) ∨
      ∃ x x', e.child name = some x ∧ e'.child name = some x' ∧ x.Alike same x' := by
  have hsight (place : List String) := h (name :: place)
  simp only [sight_cons] at hsight
  cases hc : e.child name with
  | none =>
    cases hc' : e'.child name with
    | none => exact .inl ⟨rfl, rfl⟩
    | some x =>
      have := hsight []
      simp [hc, hc', sight, find?] at this
  | some x =>
    cases hc' : e'.child name with
    | none =>
      have := hsight []
      simp [hc, hc', sight, find?] at this
    | some y =>
      simp only [hc, hc', Option.bind_some] at hsight
      exact .inr ⟨x, y, rfl, rfl, hsight⟩

/-- An empty directory is alike itself, whatever the relation between bytes. -/
theorem Alike.empty : (directory []).Alike same (directory []) := by
  intro place
  cases place with
  | nil => exact .some .none
  | cons name place => exact .none

/-- **Alike entries that are put at the same place of alike trees leave them alike.** -/
theorem Alike.insert {e e' root root' : Entry} (he : e.Alike same e')
    (hroot : root.Alike same root') (place : List String) :
    (insert e place root).Alike same (insert e' place root') := by
  induction place generalizing root root' with
  | nil => exact he
  | cons name names ih =>
    -- below the first name by induction, also where a directory had to be made; elsewhere as before
    intro place
    cases place with
    | nil =>
      simp only [sight, find?, Option.map_some, bytes?_insert_cons]
      exact .some .none
    | cons other place =>
      rw [sight_cons, sight_cons, child_insert, child_insert]
      by_cases h : other = name
      · rw [if_pos h, if_pos h]
        refine ih ?_ place
        rcases hroot.child_cases name with ⟨hx, hx'⟩ | ⟨x, x', hx, hx', h⟩
        · rw [hx, hx']
          exact .empty
        · rw [hx, hx']
          exact h
      · rw [if_neg h, if_neg h, ← sight_cons, ← sight_cons]
        exact hroot _

/-- Two entries that are alike are both files or both directories. -/
theorem Alike.cases {e e' : Entry} (h : e.Alike same e') :
    (∃ c c', e = file c ∧ e' = file c' ∧ same c c') ∨
      ∃ es es', e = directory es ∧ e' = directory es' := by
  have hsight := h []
  cases e with
  | file c =>
    cases e' with
    | file c' =>
      cases hsight with
      | some hc =>
        cases hc with
        | some hc => exact .inl ⟨c, c', rfl, rfl, hc⟩
    | directory es' =>
      cases hsight with
      | some hc => cases hc
  | directory es =>
    cases e' with
    | file c' =>
      cases hsight with
      | some hc => cases hc
    | directory es' => exact .inr ⟨es, es', rfl, rfl⟩

theorem Alike.file {c c' : ByteArray} (h : same c c') : (file c).Alike same (file c') := by
  intro place
  cases place with
  | nil => exact .some (.some h)
  | cons name place => exact .none

theorem find?_cons (root : Entry) (name : String) (place : List String) :
    root.find? (name :: place) = (root.child name).bind fun e => e.find? place := by
  cases root <;> rfl

/-- Names lead to alike entries of alike trees. -/
theorem Alike.find? {root root' : Entry} (h : root.Alike same root') (place : List String) :
    Option.Rel (Alike same) (root.find? place) (root'.find? place) := by
  induction place generalizing root root' with
  | nil => exact .some h
  | cons name place ih =>
    rw [find?_cons, find?_cons]
    rcases h.child_cases name with ⟨hx, hx'⟩ | ⟨x, x', hx, hx', h⟩
    · rw [hx, hx']
      exact .none
    · rw [hx, hx']
      exact ih h

/-- What names lead to in alike trees: nothing in both, two files or two directories. -/
theorem Alike.find?_cases {root root' : Entry} (h : root.Alike same root') (place : List String) :
    (root.find? place = none ∧ root'.find? place = none) ∨
      (∃ c c', root.find? place = some (.file c) ∧ root'.find? place = some (.file c') ∧
        same c c') ∨
      ∃ es es', root.find? place = some (.directory es) ∧
        root'.find? place = some (.directory es') ∧
        ∀ name, (lookup name es').isSome = (lookup name es).isSome := by
  have hfind := h.find? place
  generalize root.find? place = x, root'.find? place = x' at hfind
  cases hfind with
  | none => exact .inl ⟨rfl, rfl⟩
  | some hx =>
    obtain ⟨c, c', rfl, rfl, hc⟩ | ⟨es, es', rfl, rfl⟩ := hx.cases
    · exact .inr (.inl ⟨c, c', rfl, rfl, hc⟩)
    · refine .inr (.inr ⟨es, es', rfl, rfl, fun name => ?_⟩)
      change ((directory es').child name).isSome = ((directory es).child name).isSome
      rcases hx.child_cases name with ⟨hx, hx'⟩ | ⟨x, x', hx, hx', -⟩
      · rw [hx, hx']
      · rw [hx, hx']
        rfl

/-- **A tree is alike the tree in which an entry gave place to one that is alike it.** -/
theorem alike_insert (hsame : ∀ c, same c c) {e x root : Entry} {place : List String}
    (hplace : root.find? place = some x) (h : x.Alike same e) :
    root.Alike same (insert e place root) := by
  induction place generalizing root with
  | nil =>
    cases hplace
    exact h
  | cons name names ih =>
    rw [find?_cons] at hplace
    obtain ⟨y, hy, hplace⟩ := Option.bind_eq_some_iff.mp hplace
    intro place
    cases place with
    | nil =>
      have hroot : root.bytes? = none := by
        cases root with
        | file _ => cases hy
        | directory _ => rfl
      rw [sight, sight, find?, find?, Option.map_some, Option.map_some, bytes?_insert_cons, hroot]
      exact .some .none
    | cons other place =>
      rw [sight_cons, sight_cons, child_insert]
      by_cases hother : other = name
      · rw [if_pos hother, hother, hy]
        exact ih hplace place
      · rw [if_neg hother, ← sight_cons]
        exact Alike.refl hsame root _

end Entry

namespace Files

/-- The same working directory in alike trees, in which the same is permitted. -/
structure Alike (same : ByteArray → ByteArray → Prop) (f f' : Files) : Prop where
  /-- Paths begin at the same place. -/
  workingDirectory : f'.workingDirectory = f.workingDirectory
  /-- The same is permitted. -/
  permits : f'.permits = f.permits
  /-- The trees are alike. -/
  root : f.root.Alike same f'.root

/-- Answers that are related, or the same error. -/
def AnswersAlike {ε α β : Type} (r : α → β → Prop) (x : Except ε α) (y : Except ε β) : Prop :=
  (∃ a b, x = .ok a ∧ y = .ok b ∧ r a b) ∨ ∃ e, x = .error e ∧ y = .error e

theorem AnswersAlike.ok {ε α β : Type} {r : α → β → Prop} {a : α} {b : β} (h : r a b) :
    AnswersAlike r (.ok a : Except ε α) (.ok b : Except ε β) :=
  .inl ⟨a, b, rfl, rfl, h⟩

theorem AnswersAlike.error {ε α β : Type} {r : α → β → Prop} (e : ε) :
    AnswersAlike r (.error e : Except ε α) (.error e : Except ε β) :=
  .inr ⟨e, rfl, rfl⟩

variable {same : ByteArray → ByteArray → Prop} {f f' : Files}

/-! ### Where paths lead -/

theorem Alike.walk (h : f.Alike same f') (place : List String) (ss : List (List Char)) :
    f'.walk place ss = f.walk place ss := by
  induction ss generalizing place with
  | nil => rfl
  | cons s ss ih =>
    simp only [Files.walk, ih, h.permits]
    rcases h.root.find?_cases place with
      ⟨hx, hx'⟩ | ⟨c, c', hx, hx', -⟩ | ⟨es, es', hx, hx', hnames⟩
    · simp only [hx, hx']
    · simp only [hx, hx']
    · simp only [hx, hx', hnames]

/-- **A path leads to the same place in alike files.** -/
theorem Alike.resolve (h : f.Alike same f') (p : Path) : f'.resolve p = f.resolve p := by
  rw [Files.resolve, Files.resolve, h.workingDirectory, h.walk]

theorem Alike.entry (h : f.Alike same f') (p : Path) :
    AnswersAlike (fun x x' => x'.1 = x.1 ∧ x.2.Alike same x'.2) (f.entry p) (f'.entry p) := by
  rw [Files.entry, Files.entry, h.resolve]
  cases f.resolve p with
  | error e => exact .error e
  | ok place =>
    have hfind := h.root.find? place
    simp only [bind, Except.bind]
    generalize f.root.find? place = x, f'.root.find? place = x' at hfind
    cases hfind with
    | none => exact .error _
    | some hx => exact .ok ⟨rfl, hx⟩

theorem Alike.exists? (h : f.Alike same f') (p : Path) : f'.exists? p = f.exists? p := by
  rw [Files.exists?, Files.exists?]
  rcases h.entry p with ⟨x, x', hx, hx', -⟩ | ⟨e, he, he'⟩
  · rw [hx, hx']
  · rw [he, he']

theorem Alike.isDirectory (h : f.Alike same f') (p : Path) :
    f'.isDirectory p = f.isDirectory p := by
  rw [Files.isDirectory, Files.isDirectory]
  rcases h.entry p with ⟨⟨place, e⟩, ⟨place', e'⟩, hx, hx', -, halike⟩ | ⟨e, he, he'⟩
  · rw [hx, hx']
    obtain ⟨c, c', rfl, rfl, -⟩ | ⟨es, es', rfl, rfl⟩ := Entry.Alike.cases halike <;> rfl
  · rw [he, he']

theorem Alike.content (h : f.Alike same f') (place : List String) {e e' : Entry}
    (he : e.Alike same e') : AnswersAlike same (f.content place e) (f'.content place e') := by
  rw [Files.content.eq_def, Files.content.eq_def, h.permits]
  split
  · exact .error _
  · obtain ⟨c, c', rfl, rfl, hc⟩ | ⟨es, es', rfl, rfl⟩ := he.cases
    · exact .ok hc
    · exact .error _

theorem Alike.read (h : f.Alike same f') (p : Path) :
    AnswersAlike same (f.read p) (f'.read p) := by
  rw [Files.read, Files.read]
  rcases h.entry p with ⟨⟨place, e⟩, ⟨place', e'⟩, hx, hx', hplace, halike⟩ | ⟨e, he, he'⟩
  · obtain rfl : place' = place := hplace
    rw [hx, hx']
    exact h.content place' halike
  · rw [he, he']
    exact .error e

/-! ### Changing -/

theorem Alike.put (h : f.Alike same f') (place : List String) {e e' : Entry}
    (he : e.Alike same e') : (f.put place e).Alike same (f'.put place e') :=
  ⟨h.workingDirectory, h.permits, he.insert h.root place⟩

theorem Alike.vacancy (h : f.Alike same f') (p : Path) : f'.vacancy p = f.vacancy p := by
  rw [Files.vacancy, Files.vacancy]
  cases p.inDirectory with
  | none => rfl
  | some x =>
    obtain ⟨dir, name⟩ := x
    dsimp only
    rw [h.resolve, h.permits]
    cases f.resolve dir with
    | error e => rfl
    | ok place =>
      simp only [bind, Except.bind]
      rcases h.root.find?_cases place with ⟨hx, hx'⟩ | ⟨c, c', hx, hx', -⟩ | ⟨es, es', hx, hx', -⟩
        <;> rw [hx, hx']

theorem Alike.makeDirectory (h : f.Alike same f') (p : Path) :
    AnswersAlike (Alike same) (f.makeDirectory p) (f'.makeDirectory p) := by
  rw [Files.makeDirectory, Files.makeDirectory, h.resolve, h.vacancy]
  cases f.resolve p with
  | ok place => exact .error _
  | error e =>
    cases e with
    | missing =>
      cases f.vacancy p with
      | error e => exact .error e
      | ok place => exact .ok (h.put place .empty)
    | _ => exact .error _

/-- Alike answers of making directories: the same error, if any, and alike files. -/
def MadeAlike (same : ByteArray → ByteArray → Prop) (x x' : Option FileError × Files) : Prop :=
  x'.1 = x.1 ∧ x.2.Alike same x'.2

theorem Alike.makeDirectories (h : f.Alike same f') (fuel : Nat) (p : Path) :
    MadeAlike same (Files.makeDirectories fuel f p) (Files.makeDirectories fuel f' p) := by
  induction fuel generalizing f f' p with
  | zero => exact ⟨rfl, h⟩
  | succ fuel ih =>
    rw [Files.makeDirectories, Files.makeDirectories]
    split
    · exact ⟨rfl, h⟩
    · rcases h.makeDirectory p with ⟨g, g', hg, hg', halike⟩ | ⟨e, he, he'⟩
      · rw [hg, hg']
        exact ⟨rfl, halike⟩
      · rw [he, he']
        cases e with
        | missing =>
          -- the directory above is made first, and then the path is tried again
          have habove := ih h p.parent
          generalize Files.makeDirectories fuel f p.parent = y,
            Files.makeDirectories fuel f' p.parent = y' at habove
          obtain ⟨x, g⟩ := y
          obtain ⟨x', g'⟩ := y'
          obtain ⟨rfl, hg⟩ : x' = x ∧ g.Alike same g' := habove
          cases x' with
          | some e => exact ⟨rfl, hg⟩
          | none =>
            dsimp only
            rw [hg.isDirectory]
            rcases hg.makeDirectory p with ⟨g₁, g₁', hg₁, hg₁', halike⟩ | ⟨e, he, he'⟩
            · rw [hg₁, hg₁']
              exact ⟨rfl, halike⟩
            · rw [he, he']
              exact ⟨rfl, hg⟩
        | _ => exact ⟨by rw [h.isDirectory], h⟩

theorem Alike.ensureDirectory (h : f.Alike same f') (p : Path) :
    MadeAlike same (f.ensureDirectory p) (f'.ensureDirectory p) :=
  h.makeDirectories _ p

theorem Alike.openForMore (hempty : same .empty .empty) (h : f.Alike same f') (p : Path) :
    AnswersAlike (fun x x' => x'.1 = x.1 ∧ x.2.Alike same x'.2) (f.openForMore p)
      (f'.openForMore p) := by
  rw [Files.openForMore, Files.openForMore, h.resolve, h.vacancy, h.permits]
  cases f.resolve p with
  | ok place =>
    dsimp only
    rcases h.root.find?_cases place with ⟨hx, hx'⟩ | ⟨c, c', hx, hx', -⟩ | ⟨es, es', hx, hx', -⟩
    · rw [hx, hx']
      exact .error _
    · rw [hx, hx']
      dsimp only
      split
      · exact .ok ⟨rfl, h⟩
      · exact .error _
    · rw [hx, hx']
      exact .error _
  | error e =>
    cases e with
    | missing =>
      cases f.vacancy p with
      | error e => exact .error e
      | ok place => exact .ok ⟨rfl, h.put place (.file hempty)⟩
    | _ => exact .error _

/-- **Text that is added to alike files leaves them alike**, if it leaves related bytes related. -/
theorem Alike.addText {s : String}
    (hadd : ∀ c c', same c c' → same (c ++ s.toUTF8) (c' ++ s.toUTF8))
    (h : f.Alike same f') (place : List String) :
    (f.addText place s).Alike same (f'.addText place s) := by
  rw [Files.addText, Files.addText]
  rcases h.root.find?_cases place with ⟨hx, hx'⟩ | ⟨c, c', hx, hx', hc⟩ | ⟨es, es', hx, hx', -⟩
  · rw [hx, hx']
    exact h
  · rw [hx, hx']
    exact h.put place (.file (hadd c c' hc))
  · rw [hx, hx']
    exact h

end Files

end Outline
