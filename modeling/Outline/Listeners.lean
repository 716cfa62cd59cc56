import Outline.Event

/-!
# Listeners

Listeners are registered under numbers that grow and are never given twice, and are called in the
order of their registration. Removing a listener leaves the others as they were.
-/

namespace Outline

/-- The registered listeners. -/
structure Listeners where
  /-- Number and name of each, in the order of registration. -/
  entries : List (Nat × String)
  /-- The number that the next listener gets. -/
  nextId : Nat

namespace Listeners

/-- Nobody listens. -/
def empty : Listeners := ⟨[], 0⟩

instance : Inhabited Listeners := ⟨empty⟩

/-- The number of listeners. -/
def size (l : Listeners) : Nat := l.entries.length

/-- Whether nobody listens. -/
def isEmpty (l : Listeners) : Bool := l.entries.isEmpty

/-- Whether a listener is registered under the number. -/
def contains (l : Listeners) (id : Nat) : Bool := l.entries.any fun e => e.1 == id

/-- Register a listener; the answer is its number. -/
def add (l : Listeners) (tag : String) : Nat × Listeners :=
  (l.nextId, ⟨l.entries ++ [(l.nextId, tag)], l.nextId + 1⟩)

/-- Remove the listener with this number; the answer is whether there was one. -/
def remove (l : Listeners) (id : Nat) : Bool × Listeners :=
  (l.contains id, { l with entries := l.entries.filter fun e => e.1 != id })

/-- One call to each listener, in the order of registration. -/
def notify (l : Listeners) (change : Change) : List Call :=
  l.entries.map fun e => ⟨e.1, e.2, change⟩

/-- Size and next number, for diagnostics. -/
def describe (l : Listeners) : String :=
  "ChangeListeners \x7b len: " ++ toString l.size ++ ", next_id: " ++ toString l.nextId ++ " \x7d"

@[simp] theorem entries_add (l : Listeners) (tag : String) :
    (l.add tag).2.entries = l.entries ++ [(l.nextId, tag)] := rfl

end Listeners

end Outline
