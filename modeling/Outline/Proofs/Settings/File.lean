import Outline.Settings.File
import Outline.Proofs.Toml.Keys

/-!
# What a settings file says

A settings file says something about a setting if it has an entry under the key of the setting
(`Says`). A text gives a layer if it is TOML, every entry is a setting with a value that fits, and
the layer has what the entries say (`Gives`). A key stands in a text only once, and so what is said
does not depend on the order in which the entries are read: the texts that are accepted are those
that give a layer (`ofText_eq_ok_iff`).
-/

namespace Outline

open Toml (Entries Item Key Scalar Span)

/-- The value that a layer gives to a setting. -/
def Layer.value? (l : Layer) : Settings.Name → Option Scalar
  | .indent => l.indent.map fun n : Nat => .integer n
  | .values => l.values.map .boolean
  | .expandAll => l.expandAll.map .boolean
  | .logFile => l.logFile.map fun p => .string p.text

/-- Nothing but the values makes a layer. -/
theorem Layer.ext_value? {l l' : Layer} (h : ∀ name, l.value? name = l'.value? name) : l = l' := by
  have hinteger : Function.Injective fun n : Nat => Scalar.integer n :=
    fun _ _ hmn => Int.ofNat.inj (Scalar.integer.inj hmn)
  have hstring : Function.Injective fun p : Path => Scalar.string p.text :=
    fun _ _ hpq => congrArg Path.mk (Scalar.string.inj hpq)
  have hboolean : Function.Injective Scalar.boolean := fun _ _ => Scalar.boolean.inj
  have hindent : l.indent = l'.indent := Option.map_injective hinteger (h .indent)
  have hvalues : l.values = l'.values := Option.map_injective hboolean (h .values)
  have hexpandAll : l.expandAll = l'.expandAll := Option.map_injective hboolean (h .expandAll)
  have hlogFile : l.logFile = l'.logFile := Option.map_injective hstring (h .logFile)
  cases l
  cases l'
  congr

namespace Settings

/-- The value can be given to the setting: spaces are counted by a whole number that is not
negative, a log file is named by a text, and the others are truth values. -/
inductive Fits : Name → Scalar → Prop
  | indent (n : Nat) : Fits .indent (.integer n)
  | values (b : Bool) : Fits .values (.boolean b)
  | expandAll (b : Bool) : Fits .expandAll (.boolean b)
  | logFile (s : String) : Fits .logFile (.string s)

/-- The entry gives a value to a setting. -/
def Assigns (e : Key × Item) (name : Name) (s : Scalar) : Prop :=
  e.1.name = name.key ∧ ∃ span, e.2 = .scalar s span

/-- The entries are settings, and the layer has what they say. -/
structure Denotes (es : Entries) (l : Layer) : Prop where
  /-- Every entry is a setting with a value that fits. -/
  fits : ∀ e ∈ es, ∃ name s, Assigns e name s ∧ Fits name s
  /-- The layer has what is said, and nothing else. -/
  value? : ∀ name s, l.value? name = some s ↔ ∃ e ∈ es, Assigns e name s

/-- The text is a settings file for this layer. -/
def Gives (text : String) (l : Layer) : Prop := ∃ es, Toml.read text = some es ∧ Denotes es l

variable {e : Key × Item} {es : Entries} {l l' : Layer} {name : Name} {item : Item} {s : Scalar}

theorem Denotes.unique (h : Denotes es l) (h' : Denotes es l') : l = l' :=
  Layer.ext_value? fun name => Option.ext fun s => (h.value? name s).trans (h'.value? name s).symm

/-! ### One entry -/

theorem Name.eq_of_key_eq {name other : Name} (h : name.key = other.key) : name = other := by
  cases name <;> cases other <;> first | rfl | exact absurd h (by decide)

theorem Name.ofKey?_eq_some_iff {key : String} : Name.ofKey? key = some name ↔ key = name.key := by
  constructor
  · intro h
    have hkey := List.find?_some h
    exact (beq_iff_eq.mp hkey).symm
  · rintro rfl
    cases name <;> rfl

/-- An item that is taken is a value that fits. -/
theorem exists_of_withEntry (h : withEntry l name item = .ok l') :
    ∃ s, (∃ span, item = .scalar s span) ∧ Fits name s ∧
      ∀ other, l'.value? other = if other = name then some s else l.value? other := by
  rw [withEntry.eq_def] at h
  split at h
  · next n span =>
    split at h
    · cases h
    · next hn =>
      obtain ⟨m, rfl⟩ := Int.eq_ofNat_of_zero_le (Int.not_lt.mp hn)
      cases h
      exact ⟨_, ⟨span, rfl⟩, .indent m, fun other => by cases other <;> rfl⟩
  · next b span =>
    cases h
    exact ⟨_, ⟨span, rfl⟩, .values b, fun other => by cases other <;> rfl⟩
  · next b span =>
    cases h
    exact ⟨_, ⟨span, rfl⟩, .expandAll b, fun other => by cases other <;> rfl⟩
  · next s span =>
    cases h
    exact ⟨_, ⟨span, rfl⟩, .logFile s, fun other => by cases other <;> rfl⟩
  · cases h

/-- A value that fits is taken. -/
theorem exists_withEntry (h : Fits name s) (l : Layer) (span : Span) :
    ∃ l', withEntry l name (.scalar s span) = .ok l' ∧
      ∀ other, l'.value? other = if other = name then some s else l.value? other := by
  cases h with
  | indent n =>
    rw [withEntry, if_neg (Int.not_lt.mpr (Int.natCast_nonneg n))]
    exact ⟨_, rfl, fun other => by cases other <;> rfl⟩
  | values b => exact ⟨_, rfl, fun other => by cases other <;> rfl⟩
  | expandAll b => exact ⟨_, rfl, fun other => by cases other <;> rfl⟩
  | logFile s => exact ⟨_, rfl, fun other => by cases other <;> rfl⟩

/-- **A setting is taken from a value that fits**, and the other settings stay. -/
theorem withEntry_eq_ok_iff :
    withEntry l name item = .ok l' ↔ ∃ s, (∃ span, item = .scalar s span) ∧ Fits name s ∧
      ∀ other, l'.value? other = if other = name then some s else l.value? other := by
  refine ⟨exists_of_withEntry, ?_⟩
  rintro ⟨s, ⟨span, rfl⟩, hfits, hl'⟩
  obtain ⟨l₁, hl₁, hvalue⟩ := exists_withEntry hfits l span
  rw [hl₁, Layer.ext_value? fun other => (hvalue other).trans (hl' other).symm]

theorem Assigns.iff_eq (h : Assigns e name s) {other : Name} {s' : Scalar} :
    Assigns e other s' ↔ other = name ∧ s' = s := by
  obtain ⟨hkey, span, hitem⟩ := h
  constructor
  · rintro ⟨hkey', span', hitem'⟩
    refine ⟨Name.eq_of_key_eq (hkey'.symm.trans hkey), ?_⟩
    cases hitem.symm.trans hitem'
    rfl
  · rintro ⟨rfl, rfl⟩
    exact ⟨hkey, span, hitem⟩

/-! ### All entries -/

theorem ofEntries_cons_eq_ok_iff :
    ofEntries l (e :: es) = .ok l' ↔ ∃ name s l₁, Assigns e name s ∧ Fits name s ∧
      (∀ other, l₁.value? other = if other = name then some s else l.value? other) ∧
        ofEntries l₁ es = .ok l' := by
  obtain ⟨key, item⟩ := e
  rw [ofEntries]
  constructor
  · intro h
    split at h
    · cases h
    next name hname =>
    split at h
    · cases h
    next l₁ hl₁ =>
    obtain ⟨s, hitem, hfits, hvalue⟩ := withEntry_eq_ok_iff.mp hl₁
    exact ⟨name, s, l₁, ⟨Name.ofKey?_eq_some_iff.mp hname, hitem⟩, hfits, hvalue, h⟩
  · rintro ⟨name, s, l₁, ⟨hkey, hitem⟩, hfits, hvalue, h⟩
    rw [Name.ofKey?_eq_some_iff.mpr hkey]
    dsimp only
    rw [withEntry_eq_ok_iff.mpr ⟨s, hitem, hfits, hvalue⟩]
    exact h

/-- **What entries say comes into the layer**, in the place of what it had. -/
theorem value?_of_ofEntries (hes : (Toml.names es).Nodup) (h : ofEntries l es = .ok l') :
    l'.value? name = some s ↔
      (∃ e ∈ es, Assigns e name s) ∨ name.key ∉ Toml.names es ∧ l.value? name = some s := by
  induction es generalizing l with
  | nil =>
    cases h
    simp [Toml.names]
  | cons e es ih =>
    obtain ⟨name₁, s₁, l₁, he, -, hvalue, hrest⟩ := ofEntries_cons_eq_ok_iff.mp h
    obtain ⟨hnew, hes⟩ := List.nodup_cons.mp hes
    have hnames : Toml.names (e :: es) = name₁.key :: Toml.names es := congrArg (· :: _) he.1
    rw [ih hes hrest, hvalue, List.exists_mem_cons_iff, he.iff_eq, hnames, List.mem_cons, not_or]
    by_cases hname : name = name₁
    · -- the key does not stand further down, and so its value stays
      subst hname
      have hnot : name.key ∉ Toml.names es := he.1 ▸ hnew
      simp [hnot, or_comm, eq_comm]
    · have hkey : name.key ≠ name₁.key := fun h => hname (Name.eq_of_key_eq h)
      simp [hname, hkey]

theorem exists_ofEntries_iff :
    (∃ l', ofEntries l es = .ok l') ↔ ∀ e ∈ es, ∃ name s, Assigns e name s ∧ Fits name s := by
  induction es generalizing l with
  | nil => exact ⟨fun _ _ he => absurd he List.not_mem_nil, fun _ => ⟨l, rfl⟩⟩
  | cons e es ih =>
    rw [List.forall_mem_cons]
    constructor
    · rintro ⟨l', h⟩
      obtain ⟨name, s, l₁, he, hfits, -, hrest⟩ := ofEntries_cons_eq_ok_iff.mp h
      exact ⟨⟨name, s, he, hfits⟩, ih.mp ⟨l', hrest⟩⟩
    · rintro ⟨⟨name, s, he, hfits⟩, hes⟩
      obtain ⟨span, hitem⟩ := he.2
      obtain ⟨l₁, -, hvalue⟩ := exists_withEntry hfits l span
      obtain ⟨l', hrest⟩ := ih.mpr hes
      exact ⟨l', ofEntries_cons_eq_ok_iff.mpr ⟨name, s, l₁, he, hfits, hvalue, hrest⟩⟩

/-- Entries that are read are those that denote a layer, if no key is given twice. -/
theorem ofEntries_eq_ok_iff (hes : (Toml.names es).Nodup) :
    ofEntries .empty es = .ok l ↔ Denotes es l := by
  have hdenotes {l' : Layer} (h : ofEntries .empty es = .ok l') : Denotes es l' := by
    refine ⟨exists_ofEntries_iff.mp ⟨l', h⟩, fun name s => ?_⟩
    have hempty : Layer.empty.value? name ≠ some s := by cases name <;> exact nofun
    rw [value?_of_ofEntries hes h, or_iff_left fun hold => hempty hold.2]
  refine ⟨hdenotes, fun h => ?_⟩
  obtain ⟨l', hl'⟩ := exists_ofEntries_iff.mpr h.fits
  rw [hl', h.unique (hdenotes hl')]

theorem mapError_eq_ok_iff {ε ε' α : Type} {x : Except ε α} {f : ε → ε'} {a : α} :
    x.mapError f = .ok a ↔ x = .ok a := by
  cases x <;> simp [Except.mapError]

/-- **The texts that are accepted are the settings files**, and they are read as what they say. -/
theorem ofText_eq_ok_iff {text : String} : ofText text = .ok l ↔ Gives text l := by
  rw [ofText]
  constructor
  · intro h
    split at h
    · cases h
    · next es hread =>
      have hentries : ofEntries .empty es = .ok l := mapError_eq_ok_iff.mp h
      exact ⟨es, hread, (ofEntries_eq_ok_iff (Toml.nodup_read hread)).mp hentries⟩
  · rintro ⟨es, hread, hes⟩
    rw [hread]
    exact mapError_eq_ok_iff.mpr ((ofEntries_eq_ok_iff (Toml.nodup_read hread)).mpr hes)

end Settings

end Outline
