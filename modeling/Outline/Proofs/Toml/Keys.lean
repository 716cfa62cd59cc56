import Mathlib.Data.List.Nodup
import Outline.Toml.Reader

/-!
# Keys of a TOML text

A key is given once. Whatever a line adds to a table comes to stand under a new name, or it takes
the place of what stood under its name; so the names of a table stay different
(`keepsDistinct_changeAt`), and with them those of the tables of a draft (`Draft.Distinct`), line by
line. The names at the top level of a text are therefore all different (`nodup_read`).
-/

namespace Outline.Toml

variable {α : Type} {es es' : Entries} {name : String} {key : Key} {item : Item} {d d' : Draft}

/-- The names of entries, in order. -/
def names (es : Entries) : List String := es.map fun e => e.1.name

@[simp] theorem names_append (es es' : Entries) : names (es ++ es') = names es ++ names es' :=
  List.map_append

/-! ### Changing one table -/

theorem find?_eq_none_iff : find? name es = none ↔ name ∉ names es := by
  simp [find?, names]

/-- A new name is put behind the others. -/
theorem nodup_append (hes : (names es).Nodup) (hkey : find? key.name es = none) :
    (names (es ++ [(key, item)])).Nodup := by
  rw [names_append]
  refine hes.append (List.nodup_singleton _) (List.disjoint_singleton.mpr ?_)
  exact find?_eq_none_iff.mp hkey

@[simp] theorem names_replace (name : String) (item : Item) (es : Entries) :
    names (replace name item es) = names es := by
  rw [names, replace, List.map_map]
  refine List.map_congr_left fun e _ => ?_
  rw [Function.comp_apply]
  split
  · rfl
  · rfl

theorem nodup_erase (hes : (names es).Nodup) : (names (erase name es)).Nodup :=
  hes.sublist (List.filter_sublist.map _)

/-- The change leaves different names different. -/
def KeepsDistinct (change : Made → Entries → Option (α × Entries)) : Prop :=
  ∀ {made es a es'}, change made es = some (a, es') → (names es).Nodup → (names es').Nodup

/-- **A change further down does not matter here**: the tables on the way keep their names. -/
theorem keepsDistinct_changeAt {dotted : Bool} {change : Made → Entries → Option (α × Entries)}
    (hchange : KeepsDistinct change) (path : List Key) :
    KeepsDistinct (changeAt dotted change path) := by
  intro made es a es' h hes
  cases path with
  | nil => exact hchange h hes
  | cons k path =>
    rw [changeAt.eq_def] at h
    simp only [bind] at h
    split at h
    · next hnone =>
      obtain ⟨_, -, hes'⟩ := Option.bind_eq_some_iff.mp h
      cases hes'
      exact nodup_append hes hnone
    · split at h
      · cases h
      · obtain ⟨_, -, hes'⟩ := Option.bind_eq_some_iff.mp h
        cases hes'
        rwa [names_replace]
    · obtain ⟨_, -, hes'⟩ := Option.bind_eq_some_iff.mp h
      cases hes'
      rwa [names_replace]
    · cases h

theorem nodup_of_changeAt {dotted : Bool} {change : Made → Entries → Option (α × Entries)}
    {path : List Key} {made : Made} (hchange : KeepsDistinct change) (hes : (names es).Nodup)
    (h : (changeAt dotted change path made es).map Prod.snd = some es') : (names es').Nodup := by
  obtain ⟨⟨a, es₁⟩, hchanged, rfl⟩ := Option.map_eq_some_iff.mp h
  exact keepsDistinct_changeAt hchange path hchanged hes

theorem nodup_addEntry {path : List Key} (hes : (names es).Nodup)
    (h : addEntry path key item es = some es') : (names es').Nodup := by
  refine nodup_of_changeAt ?_ hes h
  intro made es a es' h hes
  dsimp only at h
  split at h
  · cases h
  · next hnew =>
    cases h
    simp only [Bool.or_eq_true, not_or, Option.not_isSome_iff_eq_none] at hnew
    exact nodup_append hes hnew.2

/-! ### Drafts -/

/-- The names of the tables at the top level are different: those of the tables that are complete,
and those of the table that is being filled, if it has no header. -/
structure Draft.Distinct (d : Draft) : Prop where
  /-- The tables that are complete. -/
  root : (names d.root).Nodup
  /-- The table that is being filled. -/
  current : d.current.key = none → (names d.current.entries).Nodup

namespace Draft

theorem distinct_empty : empty.Distinct := ⟨List.nodup_nil, fun _ => List.nodup_nil⟩

theorem Distinct.close (hd : d.Distinct) (h : d.close = some es) : (names es).Nodup := by
  rw [Draft.close] at h
  split at h
  · next hkey =>
    cases h
    exact hd.current hkey
  · refine nodup_of_changeAt ?_ hd.root h
    intro made es a es' h hes
    dsimp only at h
    split at h
    · next hnone =>
      cases h
      exact nodup_append hes hnone
    · split at h
      · cases h
        rwa [names_replace]
      · cases h
    · cases h

theorem Distinct.openTable {parents : List Key} {span : Span} (hd : d.Distinct)
    (h : d.openTable parents key span = some d') : d'.Distinct := by
  obtain ⟨root, hroot, h⟩ := Option.bind_eq_some_iff.mp h
  obtain ⟨⟨entries, root'⟩, hroot', h⟩ := Option.bind_eq_some_iff.mp h
  cases h
  refine ⟨keepsDistinct_changeAt ?_ parents hroot' (hd.close hroot), fun hkey => nomatch hkey⟩
  intro made es a es' h hes
  dsimp only at h
  split at h
  · cases h
    exact hes
  · cases h
    exact nodup_erase hes
  · cases h

theorem Distinct.openRepeated {parents : List Key} {span : Span} (hd : d.Distinct)
    (h : d.openRepeated parents key span = some d') : d'.Distinct := by
  obtain ⟨root, hroot, h⟩ := Option.bind_eq_some_iff.mp h
  obtain ⟨⟨_, root'⟩, hroot', h⟩ := Option.bind_eq_some_iff.mp h
  cases h
  refine ⟨keepsDistinct_changeAt ?_ parents hroot' (hd.close hroot), fun hkey => nomatch hkey⟩
  intro made es a es' h hes
  dsimp only at h
  split at h
  · cases h
    exact hes
  · cases h
    exact hes
  · cases h

theorem Distinct.add {path : List Key} (hd : d.Distinct) (h : d.add path key item = some d') :
    d'.Distinct := by
  obtain ⟨entries, hentries, h⟩ := Option.bind_eq_some_iff.mp h
  cases h
  exact ⟨hd.root, fun hkey => nodup_addEntry (hd.current hkey) hentries⟩

end Draft

/-! ### Lines -/

variable {total : Nat} {cs rest : List Char}

theorem distinct_readHeader (hd : d.Distinct) (h : readHeader total d cs = some (d', rest)) :
    d'.Distinct := by
  rw [readHeader.eq_def] at h
  simp only [bind] at h
  split at h
  · obtain ⟨⟨⟨parents, key⟩, left⟩, -, h⟩ := Option.bind_eq_some_iff.mp h
    dsimp only at h
    split at h
    · obtain ⟨d₁, hopen, h⟩ := Option.bind_eq_some_iff.mp h
      obtain ⟨_, -, h⟩ := Option.bind_eq_some_iff.mp h
      cases h
      exact hd.openRepeated hopen
    · cases h
  · obtain ⟨⟨⟨parents, key⟩, left⟩, -, h⟩ := Option.bind_eq_some_iff.mp h
    dsimp only at h
    split at h
    · obtain ⟨d₁, hopen, h⟩ := Option.bind_eq_some_iff.mp h
      obtain ⟨_, -, h⟩ := Option.bind_eq_some_iff.mp h
      cases h
      exact hd.openTable hopen
    · cases h
  · cases h

theorem distinct_readEntry (hd : d.Distinct) (h : readEntry total d cs = some (d', rest)) :
    d'.Distinct := by
  rw [readEntry.eq_def] at h
  obtain ⟨⟨⟨path, key⟩, left⟩, -, h⟩ := Option.bind_eq_some_iff.mp h
  dsimp only at h
  split at h
  · obtain ⟨⟨item, left⟩, -, h⟩ := Option.bind_eq_some_iff.mp h
    obtain ⟨d₁, hadd, h⟩ := Option.bind_eq_some_iff.mp h
    obtain ⟨_, -, h⟩ := Option.bind_eq_some_iff.mp h
    cases h
    exact hd.add hadd
  · cases h

theorem distinct_readDocument {fuel : Nat} (hd : d.Distinct)
    (h : readDocument total fuel d cs = some d') : d'.Distinct := by
  induction fuel generalizing d cs with
  | zero => cases h
  | succ fuel ih =>
    rw [readDocument] at h
    split at h
    · cases h
      exact hd
    · obtain ⟨left, -, h⟩ := Option.bind_eq_some_iff.mp h
      exact ih hd h
    · obtain ⟨⟨d₁, left⟩, hheader, h⟩ := Option.bind_eq_some_iff.mp h
      exact ih (distinct_readHeader hd hheader) h
    · split at h
      · obtain ⟨left, -, h⟩ := Option.bind_eq_some_iff.mp h
        exact ih hd h
      · obtain ⟨⟨d₁, left⟩, hentry, h⟩ := Option.bind_eq_some_iff.mp h
        exact ih (distinct_readEntry hd hentry) h

/-- **No key at the top level of a text is given twice.** -/
theorem nodup_read {text : String} (h : read text = some es) : (names es).Nodup := by
  obtain ⟨d, hd, hclose⟩ := Option.bind_eq_some_iff.mp h
  exact (distinct_readDocument Draft.distinct_empty hd).close hclose

end Outline.Toml
