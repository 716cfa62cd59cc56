import Outline.Proofs.Files
import Outline.Proofs.Path

/-!
# Files that grow

Nothing that stands somewhere is lost when directories are made, a file is opened for more text or
text is added: directories stay, and files keep their bytes in front of what is added
(`Files.Grows`). So a path that leads somewhere leads there still (`Files.Grows.resolve`), and the
file that it leads to begins as it did (`Files.Grows.read`).

The one thing that could do harm is to put a new entry where something stands. It does not happen
because a path is tried before its place is filled, and the place that is filled is the one that the
path would have led to (`Files.vacancy_cases`).
-/

namespace Outline

namespace Files

open Outline.Path (isIdle)

/-! ### The place of something new -/

theorem walk_append (f : Files) (place : List String) (ss ts : List (List Char)) :
    f.walk place (ss ++ ts) = (f.walk place ss).bind fun p => f.walk p ts := by
  induction ss generalizing place with
  | nil => rfl
  | cons s ss ih =>
    simp only [List.cons_append, walk, ih]
    cases f.root.find? place with
    | none => rfl
    | some e =>
      cases e with
      | file c => rfl
      | directory es =>
        dsimp only
        split
        · rfl
        · split
          · rfl
          · split
            · rfl
            · split <;> rfl

/-- Segments that mean nothing lead nowhere else, but only a directory has them, and it may have to
be searched for them. -/
theorem walk_idle {f : Files} {place : List String} {e : Entry} {ss : List (List Char)}
    (hplace : f.root.find? place = some e) (h : ∀ s ∈ ss, isIdle s = true) :
    f.walk place ss = .ok place ∨ ∃ x, x ≠ .missing ∧ f.walk place ss = .error x := by
  induction ss with
  | nil => exact .inl rfl
  | cons s ss ih =>
    rw [walk, hplace]
    cases e with
    | file c => exact .inr ⟨.notDirectory, by decide, rfl⟩
    | directory es =>
      dsimp only
      split
      · exact .inr ⟨.denied, by decide, rfl⟩
      · rw [if_pos (h s List.mem_cons_self)]
        exact ih fun t ht => h t (List.mem_cons_of_mem s ht)

theorem eq_of_walk_idle {f : Files} {place last : List String} {ss : List (List Char)}
    (h : ∀ s ∈ ss, isIdle s = true) (hwalk : f.walk place ss = .ok last) : last = place := by
  cases hplace : f.root.find? place with
  | some e =>
    rcases walk_idle hplace h with hok | ⟨x, -, herror⟩
    · exact Except.ok.inj (hwalk.symm.trans hok)
    · rw [herror] at hwalk
      cases hwalk
  | none =>
    cases ss with
    | nil => exact (Except.ok.inj hwalk).symm
    | cons s ss =>
      rw [walk, hplace] at hwalk
      cases hwalk

theorem find?_append (root : Entry) (place more : List String) :
    root.find? (place ++ more) = (root.find? place).bind fun e => e.find? more := by
  induction place generalizing root with
  | nil => rfl
  | cons name place ih =>
    rw [List.cons_append, Entry.find?_cons, Entry.find?_cons]
    cases root.child name with
    | none => rfl
    | some e => exact ih e

/-- A path leads to a name that stands in its directory, or fails in another way than one that leads
nowhere. -/
theorem resolve_ne_missing {f : Files} {p dir : Path} {name : String} {above : List String}
    {es : List (String × Entry)} {x : Entry} (hidle : isIdle name.toList = false)
    (hup : name.toList ≠ ['.', '.']) (hleads : p.LeadsTo dir name.toList)
    (habove : f.resolve dir = .ok above) (hes : f.root.find? above = some (.directory es))
    (hx : Entry.lookup name es = some x) : f.resolve p ≠ .error .missing := by
  obtain ⟨core, before, behind, after, hp, hdir, hbefore, hbehind, hafter⟩ := hleads.segments
  rw [resolve, if_neg (by simp [hleads.nonempty]), hleads.absolute, hdir, walk_append] at habove
  rw [resolve, if_neg (by simp [hleads.text_nonempty hidle]), hp, walk_append, walk_append]
  generalize f.walk (if p.isAbsolute then [] else f.workingDirectory) core = y at habove
  cases y with
  | error e => cases habove
  | ok q =>
    -- both paths lead to the directory, and the longer one goes on from there
    obtain rfl := eq_of_walk_idle hafter habove
    have hfind : f.root.find? (above ++ [name]) = some x := by
      rw [find?_append, hes, Option.bind_some, Entry.find?, hx]
      rfl
    rcases walk_idle hes hbefore with hwalk | ⟨y, hy, hwalk⟩
    · simp only [Except.bind, hwalk, walk, hes, hidle, hup, String.ofList_toList, hx]
      split
      · simp
      · rcases walk_idle hfind hbehind with hok | ⟨z, hz, herror⟩
        · simp [hok]
        · simpa [herror] using hz
    · simpa [Except.bind, hwalk] using hy

/-- **Where something new is put nothing stands**, if the path to it leads nowhere. -/
theorem vacancy_cases {f : Files} {p : Path} {place : List String}
    (hmissing : f.resolve p = .error .missing) (h : f.vacancy p = .ok place) :
    ∃ above name es, place = above ++ [name] ∧ f.root.find? above = some (.directory es) ∧
      Entry.lookup name es = none := by
  rw [vacancy] at h
  split at h
  · cases h
  next dir name hdir =>
  obtain ⟨hidle, hup, hleads⟩ := Path.inDirectory_cases hdir
  cases habove : f.resolve dir with
  | error e =>
    rw [habove] at h
    cases h
  | ok above =>
    rw [habove] at h
    simp only [bind, Except.bind] at h
    split at h
    · next es hes =>
      split at h
      · cases h
        refine ⟨above, name, es, rfl, hes, ?_⟩
        cases hx : Entry.lookup name es with
        | none => rfl
        | some x => exact absurd hmissing (resolve_ne_missing hidle hup hleads habove hes hx)
      · cases h
    · cases h

end Files

/-! ### Trees -/

namespace Entry

/-- What stands in the one tree stands in the other, up to a relation between the bytes of files. -/
def Within (same : ByteArray → ByteArray → Prop) (e e' : Entry) : Prop :=
  ∀ place b, e.sight place = some b → ∃ b', e'.sight place = some b' ∧ Option.Rel same b b'

variable {same : ByteArray → ByteArray → Prop}

theorem Alike.within {e e' : Entry} (h : e.Alike same e') : e.Within same e' := by
  intro place b hb
  have hplace := h place
  rw [hb] at hplace
  cases hb' : e'.sight place with
  | none =>
    rw [hb'] at hplace
    cases hplace
  | some b' =>
    rw [hb'] at hplace
    cases hplace with
    | some hrel => exact ⟨b', rfl, hrel⟩

theorem Within.refl (hsame : ∀ c, same c c) (e : Entry) : e.Within same e :=
  (Alike.refl hsame e).within

/-- **An entry that is put where nothing stands leaves everything that stands.** -/
theorem sight_insert_of_vacant {root : Entry} {above : List String} {name : String}
    {es : List (String × Entry)} (habove : root.find? above = some (directory es))
    (hname : lookup name es = none) (e : Entry) {place : List String} {b : Option ByteArray}
    (hplace : root.sight place = some b) :
    (insert e (above ++ [name]) root).sight place = some b := by
  induction above generalizing root place with
  | nil =>
    obtain rfl : root = directory es := Option.some.inj habove
    cases place with
    | nil => exact hplace
    | cons other place =>
      -- what stands somewhere does not stand under the vacant name
      rw [sight_cons] at hplace
      have hother : other ≠ name := by
        rintro rfl
        rw [child, hname] at hplace
        cases hplace
      rw [List.nil_append, sight_cons, child_insert, if_neg hother]
      exact hplace
  | cons n above ih =>
    rw [find?_cons] at habove
    obtain ⟨x, hx, habove⟩ := Option.bind_eq_some_iff.mp habove
    cases place with
    | nil =>
      have hroot : root.bytes? = none := by
        cases root with
        | file _ => cases hx
        | directory _ => rfl
      obtain rfl : none = b := hroot ▸ Option.some.inj hplace
      rw [List.cons_append, sight, find?, Option.map_some, bytes?_insert_cons]
    | cons other place =>
      rw [sight_cons] at hplace
      rw [List.cons_append, sight_cons, child_insert]
      split
      · next hother =>
        rw [hother, hx] at hplace
        rw [hx]
        exact ih habove hplace
      · exact hplace

end Entry

/-! ### Files -/

namespace Files

/-- Bytes with some text behind. -/
def Longer (c c' : ByteArray) : Prop := ∃ s : String, c' = c ++ s.toUTF8

theorem Longer.refl (c : ByteArray) : Longer c c := ⟨"", ByteArray.append_empty.symm⟩

/-- What stands in the one files stands in the others, perhaps with text added. -/
structure Grows (f f' : Files) : Prop where
  /-- Paths begin at the same place. -/
  workingDirectory : f'.workingDirectory = f.workingDirectory
  /-- The same is permitted. -/
  permits : f'.permits = f.permits
  /-- Nothing is lost. -/
  root : f.root.Within Longer f'.root

theorem Grows.refl (f : Files) : f.Grows f := ⟨rfl, rfl, .refl Longer.refl f.root⟩

theorem Grows.trans {f g h : Files} (hfg : f.Grows g) (hgh : g.Grows h) : f.Grows h := by
  refine ⟨hgh.workingDirectory.trans hfg.workingDirectory, hgh.permits.trans hfg.permits,
    fun place b hb => ?_⟩
  obtain ⟨b', hb', hrel⟩ := hfg.root place b hb
  obtain ⟨b'', hb'', hrel'⟩ := hgh.root place b' hb'
  refine ⟨b'', hb'', ?_⟩
  cases hrel with
  | none => exact hrel'
  | some hlonger =>
    cases hrel' with
    | some hlonger' =>
      obtain ⟨s, rfl⟩ := hlonger
      obtain ⟨t, rfl⟩ := hlonger'
      refine .some ⟨s ++ t, ?_⟩
      rw [ByteArray.append_assoc]
      exact congrArg _ String.toByteArray_append.symm

variable {f g : Files}

/-- What is put where nothing stands is more. -/
theorem grows_put_vacancy {p : Path} {place : List String}
    (hmissing : f.resolve p = .error .missing) (h : f.vacancy p = .ok place) (e : Entry) :
    f.Grows (f.put place e) := by
  obtain ⟨above, name, es, rfl, habove, hname⟩ := vacancy_cases hmissing h
  refine ⟨rfl, rfl, fun place b hb => ⟨b, Entry.sight_insert_of_vacant habove hname e hb, ?_⟩⟩
  cases b with
  | none => exact .none
  | some c => exact .some (.refl c)

theorem grows_makeDirectory {p : Path} (h : f.makeDirectory p = .ok g) : f.Grows g := by
  rw [makeDirectory] at h
  split at h
  · cases h
  · next hmissing =>
    cases hplace : f.vacancy p with
    | error e =>
      rw [hplace] at h
      cases h
    | ok place =>
      rw [hplace] at h
      cases h
      exact grows_put_vacancy hmissing hplace _
  · cases h

theorem grows_makeDirectories (fuel : Nat) (f : Files) (p : Path) :
    f.Grows (makeDirectories fuel f p).2 := by
  induction fuel generalizing f p with
  | zero => exact .refl f
  | succ fuel ih =>
    rw [makeDirectories]
    split
    · exact .refl f
    · split
      · next hmake => exact grows_makeDirectory hmake
      · have habove := ih f p.parent
        generalize makeDirectories fuel f p.parent = y at habove
        obtain ⟨x, g⟩ := y
        cases x with
        | some e => exact habove
        | none =>
          dsimp only at habove ⊢
          split
          · next hmake => exact habove.trans (grows_makeDirectory hmake)
          · exact habove
      · exact .refl f

theorem grows_openForMore {p : Path} {place : List String} (h : f.openForMore p = .ok (place, g)) :
    f.Grows g := by
  rw [openForMore] at h
  split at h
  · split at h
    · split at h
      · cases h
        exact .refl f
      · cases h
    · cases h
  · next hmissing =>
    cases hplace : f.vacancy p with
    | error e =>
      rw [hplace] at h
      cases h
    | ok place =>
      rw [hplace] at h
      cases h
      exact grows_put_vacancy hmissing hplace _
  · cases h

theorem grows_addText (f : Files) (place : List String) (s : String) :
    f.Grows (f.addText place s) := by
  rw [addText]
  split
  · next c hplace =>
    have halike : f.root.Alike Longer (f.put place (.file (c ++ s.toUTF8))).root :=
      Entry.alike_insert Longer.refl hplace (.file ⟨s, rfl⟩)
    exact ⟨rfl, rfl, halike.within⟩
  · exact .refl f

/-! ### Where paths lead -/

theorem Grows.find?_directory (h : f.Grows g) {place : List String} {es : List (String × Entry)}
    (hplace : f.root.find? place = some (.directory es)) :
    ∃ es', g.root.find? place = some (.directory es') := by
  obtain ⟨b, hb, hrel⟩ := h.root place none (by rw [Entry.sight, hplace]; rfl)
  cases hrel
  obtain ⟨e, he, hbytes⟩ := Option.map_eq_some_iff.mp hb
  cases e with
  | file c => cases hbytes
  | directory es' => exact ⟨es', he⟩

theorem Grows.find?_file (h : f.Grows g) {place : List String} {c : ByteArray}
    (hplace : f.root.find? place = some (.file c)) :
    ∃ s : String, g.root.find? place = some (.file (c ++ s.toUTF8)) := by
  obtain ⟨b, hb, hrel⟩ := h.root place (some c) (by rw [Entry.sight, hplace]; rfl)
  cases hrel with
  | some hlonger =>
    obtain ⟨s, rfl⟩ := hlonger
    obtain ⟨e, he, hbytes⟩ := Option.map_eq_some_iff.mp hb
    cases e with
    | file c' =>
      obtain rfl : c' = c ++ s.toUTF8 := Option.some.inj hbytes
      exact ⟨s, he⟩
    | directory es => cases hbytes

theorem Grows.isSome_find? (h : f.Grows g) {place : List String}
    (hplace : (f.root.find? place).isSome) : (g.root.find? place).isSome := by
  obtain ⟨e, he⟩ := Option.isSome_iff_exists.mp hplace
  cases e with
  | file c =>
    obtain ⟨s, hs⟩ := h.find?_file he
    rw [hs]
    rfl
  | directory es =>
    obtain ⟨es', hes'⟩ := h.find?_directory he
    rw [hes']
    rfl

theorem isSome_lookup_iff {root : Entry} {place : List String} {es : List (String × Entry)}
    (hplace : root.find? place = some (.directory es)) (name : String) :
    (Entry.lookup name es).isSome ↔ (root.find? (place ++ [name])).isSome := by
  rw [find?_append, hplace, Option.bind_some, Entry.find?]
  cases Entry.lookup name es <;> rfl

theorem Grows.walk (h : f.Grows g) {place last : List String} {ss : List (List Char)}
    (hwalk : f.walk place ss = .ok last) : g.walk place ss = .ok last := by
  induction ss generalizing place with
  | nil => exact hwalk
  | cons s ss ih =>
    rw [Files.walk] at hwalk ⊢
    split at hwalk
    · cases hwalk
    · cases hwalk
    · next es hplace =>
      obtain ⟨es', hplace'⟩ := h.find?_directory hplace
      rw [hplace', h.permits]
      dsimp only at hwalk ⊢
      split at hwalk
      · cases hwalk
      · next hsearch =>
        rw [if_neg hsearch]
        split at hwalk
        · next hidle =>
          rw [if_pos hidle]
          exact ih hwalk
        · next hidle =>
          rw [if_neg hidle]
          split at hwalk
          · next hup =>
            rw [if_pos hup]
            exact ih hwalk
          · next hup =>
            rw [if_neg hup]
            split at hwalk
            · next hname =>
              have hname' := h.isSome_find? ((isSome_lookup_iff hplace _).mp hname)
              rw [if_pos ((isSome_lookup_iff hplace' _).mpr hname')]
              exact ih hwalk
            · cases hwalk

/-- **A path that leads somewhere leads there still.** -/
theorem Grows.resolve (h : f.Grows g) {p : Path} {place : List String}
    (hresolve : f.resolve p = .ok place) : g.resolve p = .ok place := by
  rw [Files.resolve] at hresolve ⊢
  split at hresolve
  · cases hresolve
  · next hempty =>
    rw [if_neg hempty, h.workingDirectory]
    exact h.walk hresolve

/-- What it takes to read a file. -/
theorem read_eq_ok_iff {p : Path} {c : ByteArray} :
    f.read p = .ok c ↔ ∃ place, f.resolve p = .ok place ∧
      f.root.find? place = some (.file c) ∧ f.permits .read place = true := by
  rw [Files.read, entry]
  cases f.resolve p with
  | error e => simp [bind, Except.bind]
  | ok place =>
    simp only [bind, Except.bind, Except.ok.injEq, exists_eq_left']
    cases f.root.find? place with
    | none => simp
    | some e =>
      simp only [pure, Except.pure]
      cases hread : f.permits .read place <;> cases e <;> simp [content, hread]

/-- **A file that a path leads to begins as it did.** -/
theorem Grows.read (h : f.Grows g) {p : Path} {c : ByteArray} (hread : f.read p = .ok c) :
    ∃ s : String, g.read p = .ok (c ++ s.toUTF8) := by
  obtain ⟨place, hresolve, hplace, hpermits⟩ := read_eq_ok_iff.mp hread
  obtain ⟨s, hs⟩ := h.find?_file hplace
  exact ⟨s, read_eq_ok_iff.mpr ⟨place, h.resolve hresolve, hs, h.permits ▸ hpermits⟩⟩

end Files

end Outline
