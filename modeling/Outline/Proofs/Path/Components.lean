import Outline.Log.Sink
import Outline.Proofs.Path

/-!
# What a path means after its name is cut off

The directory of a path and the name that it ends in are found in two different ways: the name is
the last component, and the directory is put together from segments. That they fit shows when the
name is put behind the directory again. A proper name behind a directory adds one component
(`components_div`), and a directory that holds a name has the components in front of it
(`Holds.components`). The one exception is a bare name, for which the directory at which paths begin
has to be named.
-/

namespace Outline.Path

/-! ### Segments of a longer path -/

theorem split_append_slash (cs ds : List Char) : split (cs ++ '/' :: ds) = split cs ++ split ds := by
  induction cs with
  | nil => simp [split_cons, split]
  | cons c cs ih =>
    rw [List.cons_append, split_cons, split_cons, ih]
    split
    · rfl
    · cases hcs : split cs with
      | nil => exact absurd hcs (split_ne_nil cs)
      | cons s ss => rfl

theorem split_of_not_mem {cs : List Char} (h : '/' ∉ cs) : split cs = [cs] := by
  rw [← split_join (List.cons_ne_nil cs []) fun s hs => List.mem_singleton.mp hs ▸ h]
  rfl

theorem segments_ne_nil (p : Path) : p.segments ≠ [] := split_ne_nil p.text.toList

/-- A name is put behind a directory as one more segment; an empty segment at the end of the directory
gives place to it. -/
theorem segments_div {dir : Path} {name : String} (hdir : dir.text.isEmpty = false)
    (hname : '/' ∉ name.toList) :
    (dir / name).segments = dir.segments ++ [name.toList] ∨
      ∃ init, init ≠ [] ∧ dir.segments = init ++ [[]] ∧
        (dir / name).segments = init ++ [name.toList] := by
  have habsolute : (Path.mk name).isAbsolute = false := by
    rw [isAbsolute, beq_eq_false_iff_ne]
    exact fun h => hname (List.mem_of_head? h)
  have hdiv : dir / name = dir.append ⟨name⟩ := rfl
  rw [hdiv, append, habsolute, hdir, Bool.or_false, if_neg Bool.false_ne_true]
  split
  · next hlast =>
    obtain ⟨cs, hcs⟩ := List.getLast?_eq_some_iff.mp (beq_iff_eq.mp hlast)
    refine .inr ⟨split cs, split_ne_nil cs, ?_, ?_⟩
    · rw [segments, hcs, split_append_slash]
      rfl
    · rw [segments, String.toList_append, hcs, List.append_assoc, List.singleton_append,
        split_append_slash, split_of_not_mem hname]
  · refine .inl ?_
    rw [segments, String.toList_append, String.toList_append, List.append_assoc]
    exact (split_append_slash dir.text.toList name.toList).trans (by rw [split_of_not_mem hname]; rfl)

/-! ### Components -/

/-- The components of a path by its segments: the first one is the root if it is empty and others
follow. -/
theorem components_of_segments {p : Path} {s : List Char} {ss : List (List Char)}
    (hp : p.segments = s :: ss) :
    p.components = (if s.isEmpty && !ss.isEmpty then some .root else firstComponent? s).toList ++
      ss.filterMap laterComponent? := by
  rw [components, hp]
  dsimp only
  rw [(isEmpty_and_isAbsolute hp).2]

theorem filterMap_laterComponent_of_idle {ss : List (List Char)} (h : ∀ s ∈ ss, isIdle s = true) :
    ss.filterMap laterComponent? = [] :=
  List.filterMap_eq_nil_iff.mpr fun s hs => laterComponent?_of_isIdle (h s hs)

variable {p dir : Path}

/-- **A proper name behind a directory is one more component.** -/
theorem components_div {name : String} (hdir : dir.text.isEmpty = false)
    (hslash : '/' ∉ name.toList) (hidle : isIdle name.toList = false)
    (hup : name.toList ≠ ['.', '.']) :
    (dir / name).components = dir.components ++ [.named name.toList] := by
  have hnamed : [name.toList].filterMap laterComponent? = [.named name.toList] := by
    rw [List.filterMap_cons, laterComponent?_of_not_isIdle hidle, if_neg hup]
    rfl
  rcases segments_div hdir hslash with hsegments | ⟨init, hinit, hdirs, hsegments⟩
  · obtain ⟨t, ts, hdirs⟩ := List.exists_cons_of_ne_nil (segments_ne_nil dir)
    have hfollow : (t.isEmpty && !ts.isEmpty) = t.isEmpty := by
      have hempty := (isEmpty_and_isAbsolute hdirs).1
      cases t <;> cases ts <;> simp_all
    rw [hdirs, List.cons_append] at hsegments
    rw [components_of_segments hsegments, components_of_segments hdirs, hfollow,
      List.filterMap_append, hnamed, List.append_assoc]
    simp
  · obtain ⟨t, ts, rfl⟩ := List.exists_cons_of_ne_nil hinit
    rw [List.cons_append] at hsegments hdirs
    rw [components_of_segments hsegments, components_of_segments hdirs, List.filterMap_append,
      List.filterMap_append, hnamed]
    simp [laterComponent?, isIdle]

/-- **A directory that holds a name has the components in front of it**, save that the directory at
which paths begin is not among the components of a bare name. -/
theorem Holds.components {name : List Char} (h : Holds p dir name) (hidle : isIdle name = false)
    (hup : name ≠ ['.', '.']) :
    p.components = dir.components ++ [.named name] ∨
      p.components = [.named name] ∧ dir = ⟨"."⟩ := by
  have hnamed : ∀ behind : List (List Char), (∀ s ∈ behind, isIdle s = true) →
      (name :: behind).filterMap laterComponent? = [.named name] := by
    intro behind hbehind
    rw [List.filterMap_cons, laterComponent?_of_not_isIdle hidle, if_neg hup,
      filterMap_laterComponent_of_idle hbehind]
  cases h with
  | here hp hbehind habsolute =>
    refine .inr ⟨?_, rfl⟩
    have hempty : name.isEmpty = false := (Bool.or_eq_false_iff.mp hidle).1
    have hhere : name ≠ ['.'] := by simpa using (Bool.or_eq_false_iff.mp hidle).2
    rw [components_of_segments hp, hempty, filterMap_laterComponent_of_idle hbehind, firstComponent?,
      if_neg hhere, laterComponent?_of_not_isIdle hidle, if_neg hup]
    rfl
  | root hp hbefore hbehind =>
    rw [List.cons_append] at hp
    rw [components_of_segments hp, List.filterMap_append, filterMap_laterComponent_of_idle hbefore,
      hnamed _ hbehind]
    simp [components, segments, split, isAbsolute, laterComponent?, isIdle]
  | @join s name core before behind hp hbefore hbehind hs =>
    have hdir : (Path.mk (String.ofList (Path.join (s :: core)))).segments = s :: core :=
      segments_join (hp.trans (List.append_assoc _ _ _)) (List.cons_ne_nil _ _)
    have hfollow : (s.isEmpty && !core.isEmpty) = s.isEmpty := by
      cases s <;> cases core <;> simp_all
    refine .inl ?_
    rw [List.cons_append, List.cons_append] at hp
    rw [components_of_segments hp, components_of_segments hdir, hfollow, List.filterMap_append,
      List.filterMap_append, filterMap_laterComponent_of_idle hbefore, hnamed _ hbehind]
    simp

/-- A path is not cut exactly if it does not end in a name. -/
theorem inDirectory_eq_none_iff :
    p.inDirectory = none ↔ ∀ name, p.components.getLast? ≠ some (.named name) := by
  rw [inDirectory, Option.map_eq_none_iff, fileName?]
  split
  · next name hlast => exact iff_of_false (by simp) fun h => h name hlast
  · next hlast => exact iff_of_true rfl hlast

/-- The name that is cut off is the last component. -/
theorem getLast?_components_of_inDirectory {name : String}
    (h : p.inDirectory = some (dir, name)) :
    p.components.getLast? = some (.named name.toList) := by
  obtain ⟨cs, hname, hdir⟩ := Option.map_eq_some_iff.mp h
  obtain ⟨-, rfl⟩ := Prod.mk.inj hdir
  rw [String.toList_ofList]
  exact eq_named_of_fileName? hname

/-- A text that means something is neither empty nor a dot. -/
theorem ne_of_not_isIdle {name : String} (h : isIdle name.toList = false) :
    name ≠ "" ∧ name ≠ "." := by
  constructor
  · rintro rfl
    exact absurd h (by decide)
  · rintro rfl
    exact absurd h (by decide)

/-- A log is refused for its path exactly if no name can be cut off this. -/
theorem openFile_eq_unnamed_iff {f : Files} {e : Environment} {time : String} {q : Path} :
    (Log.openFile f e time p).1 = .disabled (.unnamed q) ↔ q = p ∧ p.inDirectory = none := by
  rw [Log.openFile]
  cases hdir : p.inDirectory with
  | none => simp [eq_comm]
  | some cut =>
    refine iff_of_false ?_ (by simp)
    dsimp only
    split
    · simp
    · split <;> simp

/-- **Cutting the name off a path loses nothing.** Take any path, with any slashes, dots and double
dots in it.

* The path is not cut exactly if it has no components, or its last component is the root, the
  directory itself or the one above. A log with such a path is refused, and the refusal shows the
  path.
* Otherwise the name that is cut off is the last component; it is the last segment that is not empty
  and no dot. It is not empty, contains no slash, and is neither a dot nor two dots. The directory
  is not empty, and the name behind the directory has the same components as the path. If the path
  is a bare name, the directory is the dot, which then stands in front of the name. -/
theorem cut_keeps_components (p : Path) :
    (p.inDirectory = none ↔ p.components = [] ∨ p.components.getLast? = some .root ∨
      p.components.getLast? = some .here ∨ p.components.getLast? = some .up) ∧
    (∀ (f : Files) (e : Environment) (time : String) (q : Path),
      (Log.openFile f e time p).1 = .disabled (.unnamed q) ↔ q = p ∧ p.inDirectory = none) ∧
    ∀ dir name, p.inDirectory = some (dir, name) →
      p.components.getLast? = some (.named name.toList) ∧
      (∃ before behind, p.segments = before ++ name.toList :: behind ∧
        ∀ s ∈ behind, s = [] ∨ s = ['.']) ∧
      (name ≠ "" ∧ '/' ∉ name.toList ∧ name ≠ "." ∧ name ≠ "..") ∧ dir.text ≠ "" ∧
      ((dir / name).components = p.components ∨
        p.components = [.named name.toList] ∧ dir = ⟨"."⟩ ∧
          (dir / name).components = .here :: p.components) := by
  refine ⟨?_, fun f e time q => openFile_eq_unnamed_iff, fun dir name h => ?_⟩
  · rw [inDirectory_eq_none_iff]
    cases hlast : p.components.getLast? with
    | none => exact iff_of_true (by simp) (.inl (List.getLast?_eq_none_iff.mp hlast))
    | some c =>
      have hne : p.components ≠ [] := fun h => by simp [h] at hlast
      cases c <;> simp [hne]
  · obtain ⟨hidle, hup, hholds⟩ := holds_of_inDirectory h
    obtain ⟨core, before, behind, -, hsegments, -, -, hbehind, -⟩ := hholds.leadsTo.segments
    have hslash : '/' ∉ name.toList :=
      not_mem_of_mem_split (hsegments ▸ List.mem_append_right _ List.mem_cons_self)
    have hnonempty := hholds.leadsTo.nonempty
    have hdiv := components_div hnonempty hslash hidle hup
    obtain ⟨hempty, hdot⟩ := ne_of_not_isIdle hidle
    refine ⟨getLast?_components_of_inDirectory h, ⟨core ++ before, behind, hsegments, ?_⟩,
      ⟨hempty, hslash, hdot, ?_⟩, ?_, ?_⟩
    · intro s hs
      simpa [isIdle] using hbehind s hs
    · rintro rfl
      exact hup (by decide)
    · intro hempty
      rw [hempty] at hnonempty
      exact absurd hnonempty (by decide)
    · rcases hholds.components hidle hup with hcomponents | ⟨hbare, hhere⟩
      · exact .inl (hdiv.trans hcomponents.symm)
      · refine .inr ⟨hbare, hhere, ?_⟩
        rw [hdiv, hbare, hhere]
        rfl

/-- The name stands below the directory above, behind repeated slashes and dots, with a slash at its
end; the directory keeps what means something. -/
theorem cut_keeps_components_dotted :
    let p : Path := ⟨"./../a//./b//."⟩
    let dir : Path := ⟨"./../a"⟩
    p.inDirectory = some (dir, "b") ∧
      p.components = [.here, .up, .named ['a'], .named ['b']] ∧
      (dir / "b").components = p.components := by
  intro p dir
  have hcut : p.inDirectory = some (dir, "b") := by decide
  have hcomponents : p.components = [.here, .up, .named ['a'], .named ['b']] := by decide
  obtain ⟨-, -, hkept⟩ := cut_keeps_components p
  obtain ⟨-, -, -, -, hsame | ⟨hbare, -⟩⟩ := hkept _ _ hcut
  · exact ⟨hcut, hcomponents, hsame⟩
  · rw [hcomponents] at hbare
    exact absurd hbare (by decide)

end Outline.Path
