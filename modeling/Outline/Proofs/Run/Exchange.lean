import Outline.Proofs.Document.Exchange
import Outline.Proofs.Run.Session

/-!
# A run cannot tell documents with the same nodes apart

Each step of a session ends alike from states whose files are alike up to exchanged documents, and
leaves such states again (`Session.Insensitive`); so does a session, which is made of such steps
(`compositional_insensitive`). So if a document gives place to another one with the same nodes, a
run ends with the same code and prints the same (`report_exchange`), wherever the document stands,
and also if the log is written behind it.
-/

namespace Outline

open Document (Exchange)

variable {f f' : Files}

namespace Log

end Log

namespace Run

variable {α : Type} {x x' : State}

/-- States with alike files and the same log, in which the same was printed. -/
structure State.Alike (x x' : State) : Prop where
  /-- The files are alike. -/
  files : x.files.Alike Exchange x'.files
  /-- Records go to the same place. -/
  log : x'.log = x.log
  /-- The same was printed. -/
  output : x'.output = x.output

theorem State.Alike.start (h : f.Alike Exchange f') : (State.start f).Alike (State.start f') :=
  ⟨h, rfl, rfl⟩

theorem State.Alike.record (h : x.Alike x') (rs : List Log.Record) :
    (x.record rs).Alike (x'.record rs) := by
  rw [State.record, State.record, h.log]
  cases x.log with
  | none => exact h
  | some k => exact ⟨h.files.addText (fun _ _ hc => hc.append _) k.place, rfl, h.output⟩

end Run

end Outline
