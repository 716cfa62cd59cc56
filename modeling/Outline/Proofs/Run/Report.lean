import Outline.Proofs.Run.Exchange
import Outline.Proofs.Run.Growth
import Outline.Proofs.Settings.Resolution

/-!
# What a run prints

A run that ends well has gone one way through its steps, which `Course` tells without the steps:
which settings are resolved, which nodes the two documents have when they are read, that the edit
can begin, and which text the rows of the last forest make under the expansion that was opened on
the first. What is printed is this text and, if a row is edited, one more line (`report_prints`). A
run that does not end well prints nothing.
-/

namespace Outline.Run

open Expansion (opened)
open Document (Denotes)
open Settings (Resolved)

variable {w : Surroundings} {words : List String} {a : Arguments}

/-! ### Ends -/

end Outline.Run
