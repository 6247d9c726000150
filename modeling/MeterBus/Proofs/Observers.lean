import MeterBus.Hooks

/-! # What observers are told

Observers are given by the notes they leave, so a statement about their calls has to hold under all
of them at once. `Calls notes calls` says that the notes of an operation, as a function of the
observers, hold what the observer of each listed call leaves when it is called once, in this order,
and nothing else that depends on observers or records a frame. Under recording observers the calls
can be read off the notes.

* `Hooks.heard`: what one call of an observer leaves.
* `Calls`: the calls in the notes of an operation.
* `Note.onRecord`, `Calls.recorded`: the calls that are on record, and that they are those.
-/
namespace MeterBus
set_option autoImplicit false

namespace Hooks

/-- The observer of the frames that pass this way, if there is one. -/
def observer (hooks : Hooks) : Direction → Option Hook
  | .sent => hooks.send
  | .received => hooks.recv

/-- What the observer leaves when it is called once. -/
def heard (hooks : Hooks) (direction : Direction) (adapter : Adapter) (bytes : Octets) : List Note :=
  (hooks.observer direction).elim [] fun hook => hook adapter bytes

theorem fireSend_eq (hooks : Hooks) (adapter : Adapter) (bytes : Octets) :
    hooks.fireSend adapter bytes = hooks.heard .sent adapter bytes := by
  obtain ⟨send, recv⟩ := hooks
  cases send <;> rfl

theorem fireRecv_eq (hooks : Hooks) (adapter : Adapter) (bytes : Octets) :
    hooks.fireRecv adapter bytes = hooks.heard .received adapter bytes := by
  obtain ⟨send, recv⟩ := hooks
  cases recv <;> rfl

end Hooks

/-- The calls that the observers of an operation receive. -/
inductive Calls : (Hooks → List Note) → List (Direction × Octets) → Prop where
  | own (notes : List Note) (silent : notes.filterMap Note.record? = []) : Calls (fun _ => notes) []
  | call (direction : Direction) (adapter : Adapter) (bytes : Octets) :
    Calls (fun hooks => hooks.heard direction adapter bytes) [(direction, bytes)]
  | append {first second : Hooks → List Note} {calls calls' : List (Direction × Octets)}
    (head : Calls first calls) (tail : Calls second calls') :
    Calls (fun hooks => first hooks ++ second hooks) (calls ++ calls')

/-- The calls that recording observers have put on record. -/
def Note.onRecord (notes : List Note) : List (Direction × Octets) :=
  (notes.filterMap Note.record?).map fun record => (record.direction, record.bytes)

theorem Note.onRecord_append (first second : List Note) :
    Note.onRecord (first ++ second) = Note.onRecord first ++ Note.onRecord second := by
  rw [onRecord, List.filterMap_append, List.map_append]
  rfl

theorem Calls.recorded {notes : Hooks → List Note} {calls : List (Direction × Octets)}
    (h : Calls notes calls) (label : String) :
    Note.onRecord (notes (Hooks.recording label)) = calls := by
  induction h with
  | own notes silent => rw [Note.onRecord, silent, List.map_nil]
  | call direction adapter bytes => cases direction <;> rfl
  | append head tail head_ih tail_ih => rw [Note.onRecord_append, head_ih, tail_ih]

end MeterBus
