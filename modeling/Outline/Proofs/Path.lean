import Outline.Path
import Mathlib.Data.List.TakeWhile
import Mathlib.Tactic.SplitIfs

/-!
# The directory of a path

`Path.inDirectory` cuts the name off a path by putting segments together again. There are three ways
in which the directory is found (`Holds`, `holds_of_inDirectory`). In each of them the path and its
directory have the same segments up to the name, apart from some that mean nothing
(`inDirectory_cases`).
-/

namespace Outline.Path

/-! ### Segments -/

theorem split_ne_nil (cs : List Char) : split cs ≠ [] := by
  cases cs with
  | nil => exact List.cons_ne_nil _ _
  | cons c cs =>
    rw [split]
    split
    · exact List.cons_ne_nil _ _
    · split <;> exact List.cons_ne_nil _ _

theorem split_cons (c : Char) (cs : List Char) :
    split (c :: cs) = if c = '/' then [] :: split cs else (split cs).modifyHead (c :: ·) := by
  rw [split]
  split
  · rfl
  · cases hcs : split cs with
    | nil => exact absurd hcs (split_ne_nil cs)
    | cons s ss => rfl

theorem split_eq_splitOn (cs : List Char) : split cs = cs.splitOn '/' := by
  induction cs with
  | nil => rfl
  | cons c cs ih =>
    have hstep := List.splitOnP_cons_eq_if_modifyHead (p := (· == '/')) c cs
    simp only [← List.splitOn_eq_splitOnP, beq_iff_eq] at hstep
    rw [split_cons, ih, hstep]

theorem join_eq_intercalate (ss : List (List Char)) : join ss = ['/'].intercalate ss := by
  induction ss with
  | nil => rfl
  | cons s ss ih =>
    cases ss with
    | nil => simp [join]
    | cons t ss =>
      rw [join, ih, List.intercalate_cons_cons, List.append_assoc]
      · rfl
      · simp

/-- Segments without slashes are found again when they are put together. -/
theorem split_join {ss : List (List Char)} (hne : ss ≠ []) (h : ∀ s ∈ ss, '/' ∉ s) :
    split (join ss) = ss := by
  rw [split_eq_splitOn, join_eq_intercalate, List.splitOn_intercalate '/' h hne]

theorem not_mem_of_mem_split {s cs : List Char} (h : s ∈ split cs) : '/' ∉ s := by
  induction cs generalizing s with
  | nil =>
    obtain rfl := List.mem_singleton.mp h
    exact List.not_mem_nil
  | cons c cs ih =>
    rw [split_cons] at h
    split at h
    · next hc =>
      rcases List.mem_cons.mp h with rfl | h
      · exact List.not_mem_nil
      · exact ih h
    · next hc =>
      cases hcs : split cs with
      | nil =>
        rw [hcs] at h
        cases h
      | cons t ts =>
        rw [hcs] at h ih
        rcases List.mem_cons.mp h with rfl | h
        · rw [List.mem_cons, not_or]
          exact ⟨Ne.symm hc, ih List.mem_cons_self⟩
        · exact ih (List.mem_cons_of_mem t h)

theorem toList_text (p : Path) : p.text.toList = join p.segments := by
  rw [segments, split_eq_splitOn, join_eq_intercalate, List.intercalate_splitOn]

/-- A path is empty if its only segment is, and absolute if its first segment is and others
follow. -/
theorem isEmpty_and_isAbsolute {p : Path} {s : List Char} {ss : List (List Char)}
    (hp : p.segments = s :: ss) :
    p.text.isEmpty = (s.isEmpty && ss.isEmpty) ∧ p.isAbsolute = (s.isEmpty && !ss.isEmpty) := by
  have hs : '/' ∉ s := not_mem_of_mem_split (hp ▸ List.mem_cons_self)
  have hempty : p.text.isEmpty = p.text.toList.isEmpty := by
    rw [Bool.eq_iff_iff, String.isEmpty_iff, List.isEmpty_iff, String.toList_eq_nil_iff]
  rw [hempty, isAbsolute, toList_text, hp]
  cases s with
  | nil => cases ss <;> simp [join]
  | cons c s =>
    have hc : c ≠ '/' := fun hc => hs (hc ▸ List.mem_cons_self)
    cases ss <;> simp [join, hc]

/-- A path that is put together from the first segments of another one has these segments. -/
theorem segments_join {p : Path} {ss ts : List (List Char)} (hp : p.segments = ss ++ ts)
    (hne : ss ≠ []) : (Path.mk (String.ofList (join ss))).segments = ss := by
  have hslash : ∀ s ∈ ss, '/' ∉ s := fun s hs =>
    not_mem_of_mem_split (hp ▸ List.mem_append_left ts hs)
  rw [segments, String.toList_ofList, split_join hne hslash]

/-! ### Segments that mean nothing -/

theorem exists_append_trimIdle (ss : List (List Char)) :
    ∃ idle, ss = trimIdle ss ++ idle ∧ ∀ s ∈ idle, isIdle s = true := by
  refine ⟨(ss.reverse.takeWhile isIdle).reverse, ?_, fun s hs => ?_⟩
  · rw [trimIdle, ← List.reverse_append, List.takeWhile_append_dropWhile, List.reverse_reverse]
  · exact List.mem_takeWhile_imp (List.mem_reverse.mp hs)

theorem isIdle_of_trimIdle {ss init : List (List Char)} {s : List Char}
    (h : trimIdle ss = init ++ [s]) : isIdle s = false := by
  have hhead := List.head?_dropWhile_not isIdle ss.reverse
  have hreverse : ss.reverse.dropWhile isIdle = s :: init.reverse := by
    rw [← List.reverse_reverse (ss.reverse.dropWhile isIdle)]
    rw [trimIdle] at h
    rw [h, List.reverse_append]
    rfl
  rw [hreverse] at hhead
  simpa using hhead

theorem laterComponent?_of_isIdle {s : List Char} (h : isIdle s = true) :
    laterComponent? s = none :=
  if_pos h

theorem laterComponent?_of_not_isIdle {s : List Char} (h : isIdle s = false) :
    laterComponent? s = some (if s = ['.', '.'] then .up else .named s) := by
  rw [laterComponent?, if_neg (by simp [h])]
  split <;> rfl

/-- Of the later segments the last one that means something is the last component. -/
theorem getLast?_filterMap_laterComponent {ss init : List (List Char)} {s : List Char}
    (h : trimIdle ss = init ++ [s]) :
    (ss.filterMap laterComponent?).getLast? = laterComponent? s := by
  obtain ⟨idle, hss, hidle⟩ := exists_append_trimIdle ss
  have hnone : idle.filterMap laterComponent? = [] :=
    List.filterMap_eq_nil_iff.mpr fun t ht => laterComponent?_of_isIdle (hidle t ht)
  rw [hss, h, List.filterMap_append, hnone, List.append_nil, List.filterMap_append,
    List.filterMap_cons, laterComponent?_of_not_isIdle (isIdle_of_trimIdle h)]
  simp

/-! ### The directory -/

theorem laterComponent?_eq_named {s name : List Char}
    (h : laterComponent? s = some (.named name)) :
    s = name ∧ isIdle name = false ∧ name ≠ ['.', '.'] := by
  rw [laterComponent?] at h
  split_ifs at h with hidle hup
  · cases h
  · obtain rfl : s = name := Component.named.inj (Option.some.inj h)
    exact ⟨rfl, by simpa using hidle, hup⟩

/-- The name of a component, if it is one. -/
theorem eq_named_of_fileName? {p : Path} {name : List Char} (h : p.fileName? = some name) :
    p.components.getLast? = some (.named name) := by
  rw [fileName?] at h
  split at h
  · next hlast =>
    cases h
    exact hlast
  · cases h

/-- A path ends in a name if this is its last segment that means something. -/
theorem fileName?_cases {p : Path} {s name : List Char} {ss : List (List Char)}
    (hp : p.segments = s :: ss) (h : p.fileName? = some name) :
    isIdle name = false ∧ name ≠ ['.', '.'] ∧
      (trimIdle ss = [] ∧ p.isAbsolute = false ∧ s = name ∨
        ∃ init, trimIdle ss = init ++ [name]) := by
  have hlast := eq_named_of_fileName? h
  rw [components, hp] at hlast
  dsimp only at hlast
  rcases List.eq_nil_or_concat (trimIdle ss) with hnil | ⟨init, t, hinit⟩
  · obtain ⟨idle, hss, hidle⟩ := exists_append_trimIdle ss
    have hnone : ss.filterMap laterComponent? = [] := by
      rw [hss, hnil]
      exact List.filterMap_eq_nil_iff.mpr fun t ht => laterComponent?_of_isIdle (hidle t ht)
    rw [hnone, List.append_nil] at hlast
    split_ifs at hlast with habsolute
    · cases hlast
    · rw [firstComponent?] at hlast
      split_ifs at hlast with hhere
      · cases hlast
      · have hfirst : laterComponent? s = some (.named name) := by
          cases hs : laterComponent? s with
          | none =>
            rw [hs] at hlast
            cases hlast
          | some c =>
            rw [hs] at hlast
            exact hlast
        obtain ⟨rfl, hname, hup⟩ := laterComponent?_eq_named hfirst
        exact ⟨hname, hup, .inl ⟨hnil, by simpa using habsolute, rfl⟩⟩
  · rw [List.concat_eq_append] at hinit
    rw [List.getLast?_append, getLast?_filterMap_laterComponent hinit,
      laterComponent?_of_not_isIdle (isIdle_of_trimIdle hinit), Option.some_or,
      ← laterComponent?_of_not_isIdle (isIdle_of_trimIdle hinit)] at hlast
    obtain ⟨rfl, hname, hup⟩ := laterComponent?_eq_named hlast
    exact ⟨hname, hup, .inr ⟨init, hinit⟩⟩

/-- The path leads to a name within a directory: the segments are those of the directory and the
name, apart from some that mean nothing. -/
structure LeadsTo (p dir : Path) (name : List Char) : Prop where
  /-- The directory is named by a path that is not empty. -/
  nonempty : dir.text.isEmpty = false
  /-- Both paths begin at the same place. -/
  absolute : dir.isAbsolute = p.isAbsolute
  /-- Segments that mean nothing may stand before the name and behind it in the one path, and at the
  end of the other. -/
  segments : ∃ core before behind after, p.segments = core ++ before ++ name :: behind ∧
    dir.segments = core ++ after ∧ (∀ s ∈ before, isIdle s = true) ∧
      (∀ s ∈ behind, isIdle s = true) ∧ ∀ s ∈ after, isIdle s = true

/-- Only a path with some text leads to a proper name. -/
theorem LeadsTo.text_nonempty {p dir : Path} {name : List Char} (h : LeadsTo p dir name)
    (hname : isIdle name = false) : p.text.isEmpty = false := by
  obtain ⟨core, before, behind, after, hp, -⟩ := h.segments
  have hmem : name ∈ p.segments := hp ▸ List.mem_append_right _ List.mem_cons_self
  rw [← Bool.not_eq_true, String.isEmpty_iff]
  intro hempty
  rw [Path.segments, hempty] at hmem
  obtain rfl : name = [] := List.mem_singleton.mp hmem
  cases hname

/-- A bare name stands in the directory at which paths begin. -/
theorem leadsTo_here {p : Path} {name : List Char} {ss : List (List Char)}
    (hp : p.segments = name :: ss) (hss : ∀ s ∈ ss, isIdle s = true)
    (habsolute : p.isAbsolute = false) : LeadsTo p ⟨"."⟩ name where
  nonempty := rfl
  absolute := habsolute ▸ rfl
  segments := ⟨[], [], ss, [['.']], hp, rfl, fun _ h => absurd h List.not_mem_nil, hss,
    fun _ h => List.mem_singleton.mp h ▸ rfl⟩

/-- A name directly below the root stands in the root. -/
theorem leadsTo_root {p : Path} {name : List Char} {before behind : List (List Char)}
    (hp : p.segments = [] :: before ++ name :: behind) (hbefore : ∀ s ∈ before, isIdle s = true)
    (hbehind : ∀ s ∈ behind, isIdle s = true) : LeadsTo p ⟨"/"⟩ name where
  nonempty := rfl
  absolute := by
    have hne : before ++ name :: behind ≠ [] := List.append_ne_nil_of_right_ne_nil _ (by simp)
    have hcons : p.segments = [] :: (before ++ name :: behind) := hp
    rw [(isEmpty_and_isAbsolute hcons).2, List.isEmpty_eq_false_iff.mpr hne]
    rfl
  segments := ⟨[[]], before, behind, [[]], hp, rfl, hbefore, hbehind,
    fun _ h => List.mem_singleton.mp h ▸ rfl⟩

/-- Any other name stands in the directory whose segments are put together. -/
theorem leadsTo_join {p : Path} {s name : List Char} {core before behind : List (List Char)}
    (hp : p.segments = s :: core ++ before ++ name :: behind)
    (hbefore : ∀ s ∈ before, isIdle s = true) (hbehind : ∀ s ∈ behind, isIdle s = true)
    (hs : s ≠ [] ∨ core ≠ []) : LeadsTo p ⟨String.ofList (join (s :: core))⟩ name := by
  have hdir : (Path.mk (String.ofList (join (s :: core)))).segments = s :: core :=
    segments_join (hp.trans (List.append_assoc _ _ _)) (List.cons_ne_nil _ _)
  obtain ⟨hempty, habsolute⟩ := isEmpty_and_isAbsolute hdir
  refine ⟨?_, ?_, s :: core, before, behind, [], hp, by rw [hdir, List.append_nil], hbefore,
    hbehind, fun _ h => absurd h List.not_mem_nil⟩
  · rw [hempty]
    simpa [imp_iff_not_or] using hs
  · rw [habsolute, (isEmpty_and_isAbsolute (hp.trans (List.append_assoc _ _ _))).2]
    cases s with
    | nil =>
      have hcore : core ≠ [] := hs.resolve_left (absurd rfl)
      cases core with
      | nil => exact absurd rfl hcore
      | cons t core => rfl
    | cons c s => rfl

/-- The directory that holds the name at the end of a path, in the three ways in which it is found.
Segments that mean nothing may stand before the name and behind it. -/
inductive Holds (p : Path) : Path → List Char → Prop
  /-- The directory at which paths begin holds a bare name. -/
  | here {name : List Char} {behind : List (List Char)} (hp : p.segments = name :: behind)
      (hbehind : ∀ s ∈ behind, isIdle s = true) (habsolute : p.isAbsolute = false) :
      Holds p ⟨"."⟩ name
  /-- The root holds a name directly below it. -/
  | root {name : List Char} {before behind : List (List Char)}
      (hp : p.segments = [] :: before ++ name :: behind) (hbefore : ∀ s ∈ before, isIdle s = true)
      (hbehind : ∀ s ∈ behind, isIdle s = true) : Holds p ⟨"/"⟩ name
  /-- Any other name is held by the directory whose segments are put together. -/
  | join {s name : List Char} {core before behind : List (List Char)}
      (hp : p.segments = s :: core ++ before ++ name :: behind)
      (hbefore : ∀ s ∈ before, isIdle s = true) (hbehind : ∀ s ∈ behind, isIdle s = true)
      (hs : s ≠ [] ∨ core ≠ []) : Holds p ⟨String.ofList (Path.join (s :: core))⟩ name

theorem Holds.leadsTo {p dir : Path} {name : List Char} (h : Holds p dir name) :
    LeadsTo p dir name := by
  cases h with
  | here hp hbehind habsolute => exact leadsTo_here hp hbehind habsolute
  | root hp hbefore hbehind => exact leadsTo_root hp hbefore hbehind
  | join hp hbefore hbehind hs => exact leadsTo_join hp hbefore hbehind hs

/-- The parent of a path with more than a bare name holds the name that it ends in. -/
theorem holds_parent {p : Path} {s name : List Char} {ss init : List (List Char)}
    (hp : p.segments = s :: ss) (hinit : trimIdle ss = init ++ [name]) :
    Holds p p.parent name := by
  obtain ⟨behind, hss, hbehind⟩ := exists_append_trimIdle ss
  obtain ⟨before, hbefore, hidles⟩ := exists_append_trimIdle init
  have hsegments : p.segments = s :: trimIdle init ++ before ++ name :: behind := by
    calc p.segments = s :: (init ++ [name] ++ behind) := by rw [hp, ← hinit, ← hss]
      _ = s :: trimIdle init ++ before ++ name :: behind := by
        rw [List.cons_append, ← hbefore, List.append_assoc]
        rfl
  have hparent : p.parent = if p.isAbsolute && (trimIdle init).isEmpty then ⟨"/"⟩ else
      ⟨String.ofList (join (s :: trimIdle init))⟩ := by
    rw [parent, hp]
    simp [hinit]
  have habsolute : p.isAbsolute = s.isEmpty := by
    have hne : ss ≠ [] := by
      rw [hss, hinit]
      simp
    rw [(isEmpty_and_isAbsolute hp).2]
    simp [hne]
  rw [hparent]
  split_ifs with hroot
  · rw [habsolute, Bool.and_eq_true, List.isEmpty_iff, List.isEmpty_iff] at hroot
    rw [hroot.1, hroot.2] at hsegments
    exact .root hsegments hidles hbehind
  · refine .join hsegments hidles hbehind ?_
    rw [habsolute, Bool.and_eq_true, List.isEmpty_iff, List.isEmpty_iff] at hroot
    exact Decidable.not_and_iff_or_not.mp hroot

/-- **A directory that a name is cut off from holds the name**, and this is a proper name. -/
theorem holds_of_inDirectory {p dir : Path} {name : String} (h : p.inDirectory = some (dir, name)) :
    isIdle name.toList = false ∧ name.toList ≠ ['.', '.'] ∧ Holds p dir name.toList := by
  obtain ⟨cs, hname, hdir⟩ := Option.map_eq_some_iff.mp h
  obtain ⟨rfl, rfl⟩ := Prod.mk.inj hdir
  rw [String.toList_ofList]
  obtain ⟨s, ss, hp⟩ := List.exists_cons_of_ne_nil (split_ne_nil p.text.toList)
  obtain ⟨hidle, hup, hcases⟩ := fileName?_cases hp hname
  refine ⟨hidle, hup, ?_⟩
  rcases hcases with ⟨hnil, habsolute, rfl⟩ | ⟨init, hinit⟩
  · have hparent : p.parent = ⟨""⟩ := by
      rw [parent, segments, hp]
      simp [hnil, habsolute]
    obtain ⟨behind, hss, hbehind⟩ := exists_append_trimIdle ss
    rw [hss, hnil] at hp
    rw [hparent]
    exact .here hp hbehind habsolute
  · have hholds := holds_parent hp hinit
    rwa [hholds.leadsTo.nonempty, if_neg Bool.false_ne_true]

/-- **A path leads to the name that is cut off in its directory**, and this is a proper name. -/
theorem inDirectory_cases {p dir : Path} {name : String} (h : p.inDirectory = some (dir, name)) :
    isIdle name.toList = false ∧ name.toList ≠ ['.', '.'] ∧ LeadsTo p dir name.toList := by
  obtain ⟨hidle, hup, hholds⟩ := holds_of_inDirectory h
  exact ⟨hidle, hup, hholds.leadsTo⟩

end Outline.Path
