import Outline.Node

/-!
# What happens while a view changes

Operations are functions on states. What they do besides, such as calling the listeners, is told
by the list of events that they return with the new state, in the order in which things happened:
an `Outcome` is an answer, a state and these events.
-/

namespace Outline

/-- Why the rows were rebuilt. -/
inductive Cause where
  /-- Groups were expanded or collapsed. -/
  | expansion
  /-- The whole forest was replaced. -/
  | replacement
deriving DecidableEq

/-- The name of the cause in reports. -/
def Cause.label : Cause → String
  | expansion => "Expansion"
  | replacement => "SourceReplaced"

/-- The rows were rebuilt; so many there are now. -/
structure Change where
  /-- Why they were rebuilt. -/
  cause : Cause
  /-- The number of rows afterwards. -/
  rowCount : Nat
deriving DecidableEq

/-- A listener is told of a change. -/
structure Call where
  /-- The number under which the listener is registered. -/
  listener : Nat
  /-- The name that the listener goes by. -/
  tag : String
  /-- What it is told. -/
  change : Change
deriving DecidableEq

/-- The operations on the group of a single row. -/
inductive Verb where
  /-- Show the children. -/
  | expand
  /-- Hide the children. -/
  | collapse
  /-- Show them if hidden, hide them if shown. -/
  | toggle
deriving DecidableEq

/-- The name of the verb in reports. -/
def Verb.label : Verb → String
  | expand => "expand"
  | collapse => "collapse"
  | toggle => "toggle"

/-- Something that happened. -/
inductive Event where
  /-- The group at a row was expanded or collapsed. -/
  | expansionChanged (verb : Verb) (row : Nat)
  /-- The rows were rebuilt. -/
  | rowsRebuilt (change : Change)
  /-- A listener was called. -/
  | called (call : Call)
  /-- The edited node is now shown at another row, and the edit went with it. -/
  | editFollowed (node : Node) (source target : Nat)
  /-- The edited node is no longer shown, and the edit was dropped. -/
  | editDropped (node : Node)

/-- The call, if the event is one. -/
def Event.call? : Event → Option Call
  | called c => some c
  | _ => none

/-- What an operation answers, the state after it, and what happened on the way. -/
structure Outcome (σ α : Type) where
  /-- The answer. -/
  result : α
  /-- The state afterwards. -/
  state : σ
  /-- What happened, first things first. -/
  events : List Event

/-- The calls to listeners among the events, in order. -/
def Outcome.calls {σ α : Type} (o : Outcome σ α) : List Call := o.events.filterMap Event.call?

end Outline
