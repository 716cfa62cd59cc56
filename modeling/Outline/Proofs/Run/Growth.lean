import Outline.Proofs.Document.Exchange
import Outline.Proofs.Run.Session

/-!
# A run loses nothing

All that a run writes is its log, and the log is only added to. So whatever the command line, the
files that a run leaves are those that it found with something added (`grows_report`).
-/

namespace Outline

theorem Log.grows_openFile (f : Files) (e : Environment) (time : String) (p : Path) :
    f.Grows (openFile f e time p).2 := by
  rw [openFile]
  split
  · exact .refl f
  · next dir name hdir =>
    have hmade := Files.grows_makeDirectories (dir.text.length + 2) f dir
    rw [Files.ensureDirectory]
    generalize Files.makeDirectories (dir.text.length + 2) f dir = y at hmade
    obtain ⟨x, g⟩ := y
    cases x with
    | some e => exact hmade
    | none =>
      dsimp only at hmade ⊢
      split
      · exact hmade
      · next place g' hopen => exact hmade.trans (Files.grows_openForMore hopen)

namespace Run

variable {α : Type} {e : Environment} {time : String} {x y : State}

theorem grows_record (rs : List Log.Record) (x : State) : x.files.Grows (x.record rs).files := by
  rw [State.record]
  cases x.log with
  | none => exact .refl x.files
  | some k => exact Files.grows_addText x.files k.place _

/-- Once the log is open, nothing is lost. -/
theorem grows_opening {p : Path} (h : opening e time p x = some y) : x.files.Grows y.files := by
  have hopen := Log.grows_openFile x.files e time p
  rw [opening] at h
  generalize Log.openFile x.files e time p = r at h hopen
  obtain ⟨_ | _ | _, f⟩ := r
  · cases h
    exact hopen
  · cases h
    exact hopen
  · cases h

/-- No step loses anything. -/
theorem compositional_growing :
    Compositional fun _ c => c.Keeps fun x y => x.files.Grows y.files := by
  refine compositional_keeps (fun x => .refl x.files) (fun hxy hyz => hxy.trans hyz) grows_record
    fun e time p x => ?_
  rw [from_openLog]
  cases h : opening e time p x with
  | none => exact Log.grows_openFile x.files e time p
  | some y => exact grows_opening h

theorem files_conclude (y : Except Stop Unit × State) : (conclude y).files = y.2.files := by
  obtain ⟨r | _, x⟩ := y <;> rfl

/-- **A run leaves all that it found**, perhaps with text added to files. -/
theorem grows_report (w : Surroundings) (words : List String) :
    w.files.Grows (report w words).files := by
  rw [report]
  cases Arguments.read words with
  | refused => exact .refl _
  | help => exact .refl _
  | version => exact .refl _
  | run a =>
    dsimp only
    rw [files_conclude]
    exact compositional_growing.session (fun _ x => .refl x.files) w.environment w.time a
      (.start w.files)

end Run

end Outline
