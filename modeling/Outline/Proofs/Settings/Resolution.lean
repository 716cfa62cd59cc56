import Outline.Run
import Outline.Proofs.Document.Exchange
import Outline.Proofs.Settings.File
import Outline.Proofs.Text.Natural

/-!
# Where settings come from

At most one settings file is looked at (`Settings.consulted`). Either it provides a layer
(`Settings.Provides`), which is empty if there is no such file, or it cannot be used
(`Settings.Unusable`), and then there are no settings; the two exclude each other, since a file is
read in one way (`Settings.exists_load_eq_ok_iff`, `Settings.exists_load_eq_error_iff`). What stands
in other files does not matter, also if the file that is looked at does not exist.

With the layer of the file, and with the indentation that the environment asks for
(`Settings.Asks`), each setting is known by itself: it is the first that is given by the command
line, the environment, the file and the defaults, in this order. `Resolved` says all of this without
reading anything, and `settings_eq_ok_iff` that these are the settings of a run.
-/

namespace Outline

open Text (Spells blanks)

namespace Settings

/-- The file exists, and it is no settings file. -/
inductive Unusable (f : Files) (p : Path) : Prop
  /-- It cannot be read. -/
  | unreadable {x : FileError} (hexists : f.exists? p = true) (h : f.read p = .error x)
  /-- Its bytes are not those of any text. -/
  | notText {content : ByteArray} (h : f.read p = .ok content)
      (hcontent : ∀ text : String, text.toUTF8 ≠ content)
  /-- Its text is no settings file. -/
  | invalid {text : String} (h : f.read p = .ok text.toUTF8) (htext : ∀ l, ¬ Gives text l)

/-- The layer of the file that is named: what it gives, or nothing if there is no such file. -/
inductive Provides (f : Files) : Option Path → Layer → Prop
  | unnamed : Provides f none .empty
  | missing {p : Path} (h : f.exists? p = false) : Provides f (some p) .empty
  | file {p : Path} {text : String} {l : Layer} (h : f.read p = .ok text.toUTF8)
      (hgives : Gives text l) : Provides f (some p) l

/-- The one file that is looked at: the one that the command line names, else the one that a
variable names, even if its value is empty, and else the default one, if the directory for settings
is known. -/
def consulted (e : Environment) (o : Options) : Option Path :=
  (o.config.or ((e.get? "TREETABLE_CONFIG").map Path.mk)).or
    (e.directories.settings?.map fun d => d / "treetable" / "config.toml")

/-- The environment asks for an indentation: the value of the variable is a number of 64 bits in
decimal digits, perhaps with a plus sign, and blanks around it. -/
def Asks (e : Environment) (n : Nat) : Prop :=
  ∃ raw, e.get? "TREETABLE_INDENT" = some raw ∧ ∃ before core after,
    raw.toList = before ++ core ++ after ∧ (∀ c ∈ before, blanks.has c = true) ∧
      (∀ c ∈ after, blanks.has c = true) ∧ Spells core n

/-- The settings that command line, environment, file and defaults make, where the environment asks
for a width and the file provides a layer: each setting is taken from the first of the four that
gives it, whatever the others are. -/
structure Resolved (f : Files) (e : Environment) (o : Options) (width : Option Nat) (l : Layer)
    (s : Settings) : Prop where
  /-- The width is the one that the environment asks for, if it asks for any. -/
  asked : ∀ n, width = some n ↔ Asks e n
  /-- The layer is that of the one file that is looked at. -/
  file : Provides f (consulted e o) l
  /-- All four can give an indentation. -/
  indent : s.indent = ((o.indent.or width).or l.indent).getD 2
  /-- Values are shown unless an option hides them, or the file does. -/
  values : s.values = ((if o.noValues then some false else none).or l.values).getD true
  /-- Groups are expanded at once if an option wants it, or the file. -/
  expandAll : s.expandAll = ((if o.expandAll then some true else none).or l.expandAll).getD false
  /-- The log is where the file says, else in the directory for state, if that is known, and else
  in the working directory. -/
  logFile : s.logFile = l.logFile.getD
    ((e.directories.state?.map fun d => d / "treetable" / "treetable.log").getD ⟨"treetable.log"⟩)

variable {e : Environment} {f : Files} {l : Layer} {named : Option Path} {o : Options} {p : Path}

/-! ### Reading the file -/

theorem candidate?_eq (e : Environment) (o : Options) :
    candidate? e o.config = consulted e o := by
  rw [candidate?.eq_def, consulted]
  cases o.config with
  | some p => rfl
  | none => cases e.get? "TREETABLE_CONFIG" <;> rfl

theorem exists_loadFile_eq_ok_iff :
    (∃ file, loadFile f p = .ok file ∧ file.getD .empty = l) ↔ Provides f (some p) l := by
  rw [loadFile]
  constructor
  · rintro ⟨file, h, rfl⟩
    split at h
    · split at h
      · cases h
      next text htext =>
      split at h
      · cases h
      next l hl =>
      cases h
      exact .file (Files.readText_eq_ok_iff.mp htext) (ofText_eq_ok_iff.mp hl)
    · next hmissing =>
      cases h
      exact .missing (Bool.eq_false_iff.mpr hmissing)
  · intro h
    cases h with
    | missing h =>
      rw [h]
      exact ⟨none, rfl, rfl⟩
    | @file _ text _ h hgives =>
      rw [if_pos (Files.exists?_of_read h), Files.readText_eq_ok_iff.mpr h]
      dsimp only
      rw [ofText_eq_ok_iff.mpr hgives]
      exact ⟨some l, rfl, rfl⟩

theorem exists_loadFile_eq_error_iff : (∃ x, loadFile f p = .error x) ↔ Unusable f p := by
  rw [loadFile]
  constructor
  · rintro ⟨x, h⟩
    split at h
    · next hexists =>
      cases hread : f.read p with
      | error x => exact .unreadable hexists hread
      | ok content =>
        cases htext : String.fromUTF8? content with
        | none => exact .notText hread (Files.fromUTF8?_eq_none_iff.mp htext)
        | some text =>
          obtain rfl := Files.eq_toUTF8_of_fromUTF8? htext
          refine .invalid hread fun l hl => ?_
          rw [Files.readText_eq_ok_iff.mpr hread] at h
          dsimp only at h
          rw [ofText_eq_ok_iff.mpr hl] at h
          cases h
    · cases h
  · intro h
    cases h with
    | unreadable hexists h =>
      rw [if_pos hexists, Files.readText, h]
      exact ⟨_, rfl⟩
    | notText h hcontent =>
      rw [if_pos (Files.exists?_of_read h), Files.readText, h]
      dsimp only
      rw [Files.fromUTF8?_eq_none_iff.mpr hcontent]
      exact ⟨_, rfl⟩
    | @invalid text h htext =>
      rw [if_pos (Files.exists?_of_read h), Files.readText_eq_ok_iff.mpr h]
      dsimp only
      cases hof : ofText text with
      | error r => exact ⟨_, rfl⟩
      | ok l => exact absurd (ofText_eq_ok_iff.mp hof) (htext l)

/-- **A layer is found if it is provided.** -/
theorem exists_load_eq_ok_iff :
    (∃ file, load f e named = .ok file ∧ file.getD .empty = l) ↔
      Provides f (candidate? e named) l := by
  rw [load]
  cases candidate? e named with
  | none =>
    constructor
    · rintro ⟨file, h, rfl⟩
      cases h
      exact .unnamed
    · rintro ⟨⟩
      exact ⟨none, rfl, rfl⟩
  | some p => exact exists_loadFile_eq_ok_iff

/-- **No layer is found if the file that is named cannot be used.** -/
theorem exists_load_eq_error_iff :
    (∃ x, load f e named = .error x) ↔ ∃ p ∈ candidate? e named, Unusable f p := by
  rw [load]
  cases candidate? e named with
  | none => simp
  | some p => simpa using exists_loadFile_eq_error_iff

theorem gives_empty : Gives "" .empty := ofText_eq_ok_iff.mp rfl

/-! ### Putting layers together -/

theorem logFile_eq (e : Environment) :
    e.logFile = (e.directories.state?.map fun d => d / "treetable" / "treetable.log").getD
      ⟨"treetable.log"⟩ := by
  rw [Environment.logFile.eq_def]
  cases e.directories.state? <;> rfl

/-- **Each setting is the first that is given.** -/
theorem resolve_optionLayer (e : Environment) (l : Layer) (o : Options) :
    resolve e l (Run.optionLayer o) =
      { indent := ((o.indent.or (environmentLayer e).indent).or l.indent).getD 2
        values := ((if o.noValues then some false else none).or l.values).getD true
        expandAll := ((if o.expandAll then some true else none).or l.expandAll).getD false
        logFile := l.logFile.getD e.logFile } := by
  simp only [Option.getD_or]
  rfl

/-- The environment gives the indentation that it asks for. -/
theorem indent_environmentLayer_eq_some_iff {n : Nat} :
    (environmentLayer e).indent = some n ↔ Asks e n := by
  rw [environmentLayer, Option.bind_eq_some_iff]
  exact exists_congr fun raw => and_congr_right fun _ => Text.natural?_trim_eq_some_iff

/-- Settings are resolved with a layer exactly if the file provides it, and they are what this layer
makes together with the others. -/
theorem exists_resolved_iff {s : Settings} :
    (∃ width, Resolved f e o width l s) ↔
      Provides f (consulted e o) l ∧ s = resolve e l (Run.optionLayer o) := by
  rw [resolve_optionLayer, logFile_eq]
  constructor
  · rintro ⟨width, hasked, hfile, hindent, hvalues, hexpandAll, hlog⟩
    have hwidth : width = (environmentLayer e).indent := Option.ext fun n =>
      (hasked n).trans indent_environmentLayer_eq_some_iff.symm
    refine ⟨hfile, ?_⟩
    rw [← hwidth, ← hindent, ← hvalues, ← hexpandAll, ← hlog]
  · rintro ⟨hfile, rfl⟩
    exact ⟨_, fun n => indent_environmentLayer_eq_some_iff, hfile, rfl, rfl, rfl, rfl⟩

end Settings

namespace Run

open Settings (Provides Unusable Resolved consulted candidate?_eq)

variable {f g : Files} {e : Environment} {o : Options} {s : Settings}

theorem settings_eq_ok_iff_provides :
    settings f e o = .ok s ↔
      ∃ l, Provides f (consulted e o) l ∧ s = Settings.resolve e l (optionLayer o) := by
  simp only [← candidate?_eq, ← Settings.exists_load_eq_ok_iff]
  rw [settings]
  cases Settings.load f e o.config with
  | error x => simp [Except.map]
  | ok file => simp [Except.map, eq_comm]

/-- **The settings of a run are those that are resolved.** -/
theorem settings_eq_ok_iff : settings f e o = .ok s ↔ ∃ width l, Resolved f e o width l s := by
  rw [settings_eq_ok_iff_provides, exists_comm]
  exact exists_congr fun l => Settings.exists_resolved_iff.symm

theorem exists_settings_eq_error_iff :
    (∃ x, settings f e o = .error x) ↔ ∃ p ∈ consulted e o, Unusable f p := by
  rw [← candidate?_eq, ← Settings.exists_load_eq_error_iff, settings]
  cases Settings.load f e o.config with
  | error x => simp [Except.map]
  | ok file => simp [Except.map]

/-- Files do not matter but for what the one that is looked at is. -/
theorem settings_congr (hfile : ∀ p ∈ consulted e o,
    g.exists? p = f.exists? p ∧ g.readText p = f.readText p) :
    settings g e o = settings f e o := by
  rw [← candidate?_eq] at hfile
  rw [settings, settings, Settings.load, Settings.load]
  cases hnamed : Settings.candidate? e o.config with
  | none => rfl
  | some p =>
    obtain ⟨hexists, hread⟩ := hfile p hnamed
    dsimp only
    rw [Settings.loadFile, Settings.loadFile, hexists, hread]

/-- A file that does not exist is as good as an empty one. -/
theorem settings_of_missing (h : ∀ p ∈ consulted e o, f.exists? p = false) :
    settings f e o = .ok (Settings.resolve e .empty (optionLayer o)) := by
  refine settings_eq_ok_iff_provides.mpr ⟨.empty, ?_, rfl⟩
  cases hnamed : consulted e o with
  | none => exact .unnamed
  | some p => exact .missing (h p hnamed)

theorem settings_of_empty {p : Path} (hconfig : o.config = some p)
    (h : f.read p = .ok "".toUTF8) :
    settings f e o = .ok (Settings.resolve e .empty (optionLayer o)) := by
  refine settings_eq_ok_iff_provides.mpr ⟨.empty, ?_, rfl⟩
  rw [consulted, hconfig]
  exact .file h Settings.gives_empty

/-- **Settings are resolved by precedence**, and from one file. The file is the one that is named on
the command line, else by a variable, else the default one, and nothing else about the files
matters. If it is missing, the settings are those with an empty file, wherever that lies; if it is
there and is no settings file, or may not be read, there are none. Otherwise each setting is the
first that is given by the command line, the environment, the file and the defaults. The environment
gives an indentation if its variable spells a number of 64 bits between blanks. The directories may
be any. -/
theorem settings_are_first_given (f : Files) (e : Environment) (o : Options) :
    let named := consulted e o
    (∀ g : Files, (∀ p ∈ named, g.exists? p = f.exists? p ∧ g.readText p = f.readText p) →
      settings g e o = settings f e o) ∧
    ((∀ p ∈ named, f.exists? p = false) → ∀ g p, Files.read g p = .ok "".toUTF8 →
      settings f e o = settings g e { o with config := some p }) ∧
    ((∃ x, settings f e o = .error x) ↔ ∃ p ∈ named, Unusable f p) ∧
    ∀ s, settings f e o = .ok s ↔ ∃ width l, Resolved f e o width l s := by
  intro named
  refine ⟨fun g hfile => settings_congr hfile, fun hmissing g p hempty => ?_,
    exists_settings_eq_error_iff, fun s => settings_eq_ok_iff⟩
  rw [settings_of_missing hmissing]
  exact (settings_of_empty (o := { o with config := some p }) rfl hempty).symm

/-- The default file is read where nothing else is named, and gives what neither an option nor the
environment gives. An empty variable names a file that does not exist, and then no other file is
looked at, although the default one is there. -/
theorem settings_are_first_given_once :
    let content := "indent_width = 8\nexpand_all = true".toUTF8
    let f : Files := .unrestricted (.directory [("s", .directory [("treetable",
      .directory [("config.toml", .file content)])])]) []
    let g : Files := .unrestricted (.directory [("a", .file "".toUTF8)]) []
    let e : Environment := .withDirectories ⟨[("HOME", "/"), ("XDG_CONFIG_HOME", "/s"),
      ("TREETABLE_INDENT", "\u00A0+04\t")], .unknown⟩ none
    let e' := e.set "TREETABLE_CONFIG" (some "")
    let o : Options := { noValues := true }
    let log : Path := ⟨"/.local/state/treetable/treetable.log"⟩
    settings f e o = .ok ⟨4, false, true, log⟩ ∧ settings f e' o = .ok ⟨4, false, false, log⟩ ∧
      settings g e' o = settings f e' o ∧
      settings f e' o = settings g e' { o with config := some ⟨"a"⟩ } := by
  intro content f g e e' o log
  obtain ⟨-, -, -, hresolved⟩ := settings_are_first_given f e o
  obtain ⟨hother, hmissing, -, hresolved'⟩ := settings_are_first_given f e' o
  have hwidth : (Settings.environmentLayer e).indent = some 4 := by decide +kernel
  have hasked (n : Nat) : some 4 = some n ↔ Settings.Asks e n :=
    hwidth ▸ Settings.indent_environmentLayer_eq_some_iff
  have hgives : Settings.Gives "indent_width = 8\nexpand_all = true"
      { indent := some 8, expandAll := some true } :=
    Settings.ofText_eq_ok_iff.mp (by decide +kernel)
  have hfile : Provides f (consulted e o) { indent := some 8, expandAll := some true } :=
    .file (p := ⟨"/s/treetable/config.toml"⟩) rfl hgives
  have hunnamed : ∀ p ∈ consulted e' o, p = ⟨""⟩ := fun p hp => (Option.some.inj hp).symm
  refine ⟨(hresolved _).mpr ⟨some 4, _, hasked, hfile, rfl, rfl, rfl, rfl⟩,
    (hresolved' _).mpr ⟨some 4, .empty, hasked, .missing (p := ⟨""⟩) rfl, rfl, rfl, rfl, rfl⟩,
    hother g fun p hp => ?_, hmissing (fun p hp => ?_) g ⟨"a"⟩ rfl⟩
  · rw [hunnamed p hp]
    exact ⟨rfl, rfl⟩
  · rw [hunnamed p hp]
    rfl

end Run

end Outline
