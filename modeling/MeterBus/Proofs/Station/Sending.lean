import Mathlib.Logic.ExistsUnique
import MeterBus.Proofs.Observers
import MeterBus.Proofs.Station.Operations
import MeterBus.Session

/-! # The five ways of a send

A frame is sent in one write, and a send ends in one of five ways, the first objection deciding:
the frame has no wire form, the line is not open, the write is refused, the line takes only a part,
or all of it goes out. Each way has its own result and its own trace on the adapter, and only in the
last are observers told, between the write and the drain.

* `Adapter.written`, `Hooks.KeepsSent`: what is on record of writes and of sent frames.
* `Sending`, `Sending.Ends`: a send with the request it belongs to, and the five ways.
* `Sending.existsUnique_ends`.
-/
namespace MeterBus
set_option autoImplicit false

/-! ## Writes and records -/

namespace Adapter

def Event.wrote? : Event → Option Octets
  | .wrote bytes => some bytes
  | _ => none

/-- The payloads of all writes, in order. -/
def written (adapter : Adapter) : List Octets := adapter.events.filterMap Event.wrote?

theorem written_cons {adapter later : Adapter} {event : Event}
    (past : later.past = event :: adapter.past) :
    later.written = adapter.written ++ event.wrote?.toList := by
  rw [written, events_cons past, List.filterMap_append]
  cases wrote : event.wrote? <;> simp [wrote, written]

theorem sent_put (adapter : Adapter) (bytes : Octets) :
    (adapter.put bytes).sent = adapter.sent ++ bytes := by
  show (bytes.reverse ++ adapter.pastSent).reverse = _
  rw [List.reverse_append, List.reverse_reverse]
  rfl

end Adapter

def Note.sent? (note : Note) : Option Octets :=
  note.record?.bind fun record => if record.direction = .sent then some record.bytes else none

/-- The observers record every sent frame, and what they note of received ones is no such record. -/
structure Hooks.KeepsSent (hooks : Hooks) : Prop where
  send : ∃ label, hooks.send = some (Hooks.keep .sent label)
  recv : ∀ adapter bytes, (hooks.heard .received adapter bytes).filterMap Note.sent? = []

theorem Hooks.recording_keepsSent (label : String) : (Hooks.recording label).KeepsSent where
  send := ⟨label, rfl⟩
  recv _ _ := rfl

theorem filterMap_sent?_own {notes : List Note} (silent : notes.filterMap Note.record? = []) :
    notes.filterMap Note.sent? = [] := by
  rw [List.filterMap_eq_nil_iff] at silent ⊢
  intro note member
  rw [Note.sent?, silent note member]
  rfl

theorem Hooks.KeepsSent.heard {hooks : Hooks} (keeps : hooks.KeepsSent) (adapter : Adapter)
    (bytes : Octets) : (hooks.heard .sent adapter bytes).filterMap Note.sent? = [bytes] := by
  obtain ⟨label, send⟩ := keeps.send
  simp only [Hooks.heard, Hooks.observer, send]
  rfl

theorem Calls.keptSent {notes : Hooks → List Note} {calls : List (Direction × Octets)}
    (h : Calls notes calls) {hooks : Hooks} (keeps : hooks.KeepsSent) :
    (notes hooks).filterMap Note.sent? =
      calls.filterMap fun call => if call.1 = .sent then some call.2 else none := by
  induction h with
  | own notes silent => exact filterMap_sent?_own silent
  | call direction adapter bytes =>
    cases direction with
    | sent => exact keeps.heard adapter bytes
    | received => exact keeps.recv adapter bytes
  | append head tail head_ih tail_ih =>
    rw [List.filterMap_append, List.filterMap_append, head_ih, tail_ih]

/-! ## The five ways of a send -/

namespace Station

section Send

variable (station : Station) {adapter : Adapter} {frame : Frame} {wire : Octets}

theorem send_unpacked {fault : Frame.EncodeFault} (unfit : frame.encode = .error fault) :
    station.send adapter frame = station.refuse adapter (.encode fault.message) := by
  rw [send, unfit]

variable {station} (packed : frame.encode = .ok wire)
include packed

theorem send_unconnected (closed : ¬ station.connected = true) :
    station.send adapter frame = station.refuse adapter .notConnected := by
  rw [send, packed]
  exact if_neg closed

variable (connected : station.connected = true)
include connected

theorem send_faulted {kind : IoFault.Kind} (armed : adapter.refusesWrite = some kind) :
    station.send adapter frame =
      station.refuse { adapter with refusesWrite := none }
        (.write ⟨kind, "mock write failure"⟩) := by
  simp only [send, packed, if_pos connected, Adapter.write, armed]

variable (clear : adapter.refusesWrite = none)
include clear

theorem send_short {taken : Nat} (limited : adapter.writeLimit = some taken)
    (less : taken < wire.length) :
    station.send adapter frame =
      { result := .error (.shortWrite taken wire.length), station,
        adapter := adapter.put (wire.take taken),
        notes := [.remark .warn (station.device ++ ": short write (" ++ toString taken ++ " of " ++
          toString wire.length ++ " bytes)")] } := by
  have count : (wire.take taken).length = taken := by
    rw [List.length_take]
    omega
  simp only [send, packed, if_pos connected, Adapter.write, clear, limited, count,
    if_neg (Nat.ne_of_lt less)]

theorem send_whole (room : ∀ limit, adapter.writeLimit = some limit → wire.length ≤ limit) :
    station.send adapter frame =
      { result := .ok (), station, adapter := (adapter.put wire).drain,
        notes := station.hooks.heard .sent (adapter.put wire) wire } := by
  rw [← Hooks.fireSend_eq]
  cases limited : adapter.writeLimit with
  | none => simp only [send, packed, if_pos connected, Adapter.write, clear, limited, if_true]
  | some limit =>
    have all : wire.take limit = wire := List.take_of_length_le (room limit limited)
    simp only [send, packed, if_pos connected, Adapter.write, clear, limited, all, if_true]

end Send

end Station

/-- A send: the station and the adapter it finds, the request it is made for, and the frame. -/
structure Sending where
  station : Station
  adapter : Adapter
  request : Station.Request
  frame : Frame

namespace Sending

variable (sending : Sending)

def outcome : Station.Outcome Unit := sending.station.send sending.adapter sending.frame

def under (hooks : Hooks) : Sending := { sending with station := { sending.station with hooks } }

/-- What the send leaves to look at under any observers. -/
def notes (hooks : Hooks) : List Note := (sending.under hooks).outcome.notes

inductive Way where
  | unpacked
  | unconnected
  | faulted
  | short
  | whole
  deriving DecidableEq, Repr

/-- Result, new events, new bytes on the line, and the objection to the next write. Everything else
is as it was. -/
structure Leaves (outcome : Station.Outcome Unit) (result : Except Fault Unit)
    (events : List Adapter.Event) (bytes : Octets) (armed : Option IoFault.Kind) : Prop where
  result : outcome.result = result
  station : outcome.station = sending.station
  events : outcome.adapter.events = sending.adapter.events ++ events
  sent : outcome.adapter.sent = sending.adapter.sent ++ bytes
  armed : outcome.adapter.refusesWrite = armed
  others : { outcome.adapter with
      past := sending.adapter.past, pastSent := sending.adapter.pastSent,
      refusesWrite := sending.adapter.refusesWrite } = sending.adapter

/-- How a send ends, the first objection deciding. Observers are told of a frame that went out
whole, between the write and the drain, and of nothing else. -/
inductive Ends : Way → Prop where
  | unpacked (fault : Frame.EncodeFault) (unfit : sending.frame.encode = .error fault)
    (leaves : sending.Leaves sending.outcome (.error (.encode fault.message)) [] []
      sending.adapter.refusesWrite)
    (untold : Calls sending.notes []) : Ends .unpacked
  | unconnected (wire : Octets) (packed : sending.frame.encode = .ok wire)
    (closed : sending.station.connected = false)
    (leaves : sending.Leaves sending.outcome (.error .notConnected) [] []
      sending.adapter.refusesWrite)
    (untold : Calls sending.notes []) : Ends .unconnected
  | faulted (wire : Octets) (packed : sending.frame.encode = .ok wire)
    (connected : sending.station.connected = true) (kind : IoFault.Kind)
    (armed : sending.adapter.refusesWrite = some kind)
    (leaves : sending.Leaves sending.outcome (.error (.write ⟨kind, "mock write failure"⟩)) [] []
      none)
    (untold : Calls sending.notes []) : Ends .faulted
  | short (wire : Octets) (packed : sending.frame.encode = .ok wire)
    (connected : sending.station.connected = true) (clear : sending.adapter.refusesWrite = none)
    (taken : Nat) (limited : sending.adapter.writeLimit = some taken) (less : taken < wire.length)
    (leaves : sending.Leaves sending.outcome (.error (.shortWrite taken wire.length))
      [.wrote (wire.take taken)] (wire.take taken) none)
    (untold : Calls sending.notes []) : Ends .short
  | whole (wire : Octets) (packed : sending.frame.encode = .ok wire)
    (connected : sending.station.connected = true) (clear : sending.adapter.refusesWrite = none)
    (room : ∀ limit, sending.adapter.writeLimit = some limit → wire.length ≤ limit)
    (leaves : sending.Leaves sending.outcome (.ok ()) [.wrote wire, .drained] wire none)
    (line : Adapter) (wrote : line.events = sending.adapter.events ++ [.wrote wire])
    (sent : line.sent = sending.adapter.sent ++ wire)
    (told : ∀ hooks, sending.notes hooks = hooks.heard .sent line wire) : Ends .whole

/-- The way that ends with this result. -/
def Way.of : Except Fault Unit → Way
  | .error (.encode _) => unpacked
  | .error .notConnected => unconnected
  | .error (.write _) => faulted
  | .error (.shortWrite _ _) => short
  | _ => whole

variable {sending} in
theorem Ends.eq_of {way : Way} (h : sending.Ends way) : way = Way.of sending.outcome.result := by
  cases h with
  | unpacked _ _ leaves | unconnected _ _ _ leaves | faulted _ _ _ _ _ leaves
  | short _ _ _ _ _ _ _ leaves | whole _ _ _ _ _ leaves =>
    rw [leaves.result]
    rfl

theorem leaves_refused (fault : Fault) :
    sending.Leaves (sending.station.refuse sending.adapter fault) (.error fault) [] []
      sending.adapter.refusesWrite :=
  ⟨rfl, rfl, (List.append_nil _).symm, (List.append_nil _).symm, rfl, rfl⟩

theorem leaves_disarmed (fault : Fault) :
    sending.Leaves (sending.station.refuse { sending.adapter with refusesWrite := none } fault)
      (.error fault) [] [] none :=
  ⟨rfl, rfl, (List.append_nil _).symm, (List.append_nil _).symm, rfl, rfl⟩

/-- Notes that are the same under all observers and record nothing are no call. -/
theorem untold_of_outcomes {outcome : Hooks → Station.Outcome Unit}
    (same : ∀ hooks, (sending.under hooks).outcome = outcome hooks)
    (alike : ∀ hooks, (outcome hooks).notes = (outcome {}).notes)
    (quiet : (outcome {}).notes.filterMap Note.record? = []) : Calls sending.notes [] := by
  have notes : sending.notes = fun _ => (outcome {}).notes := by
    funext hooks
    rw [Sending.notes, same, alike]
  rw [notes]
  exact .own _ quiet

theorem ends_unpacked {fault : Frame.EncodeFault} (unfit : sending.frame.encode = .error fault) :
    sending.Ends .unpacked := by
  have own : sending.outcome = _ := Station.send_unpacked _ unfit
  have untold := sending.untold_of_outcomes (fun hooks =>
    @Station.send_unpacked (sending.under hooks).station _ _ _ unfit) (fun _ => rfl) rfl
  refine .unpacked fault unfit ?_ untold
  rw [own]
  exact sending.leaves_refused _

section Packed

variable {sending} {wire : Octets} (packed : sending.frame.encode = .ok wire)
include packed

theorem ends_unconnected (closed : ¬ sending.station.connected = true) :
    sending.Ends .unconnected := by
  have own : sending.outcome = _ := Station.send_unconnected packed closed
  have untold := sending.untold_of_outcomes (fun hooks =>
    @Station.send_unconnected (sending.under hooks).station _ _ _ packed closed) (fun _ => rfl) rfl
  refine .unconnected wire packed (Bool.eq_false_iff.mpr closed) ?_ untold
  rw [own]
  exact sending.leaves_refused _

variable (connected : sending.station.connected = true)
include connected

theorem ends_faulted {kind : IoFault.Kind} (armed : sending.adapter.refusesWrite = some kind) :
    sending.Ends .faulted := by
  have own : sending.outcome = _ := Station.send_faulted packed connected armed
  have untold := sending.untold_of_outcomes (fun hooks =>
    @Station.send_faulted (sending.under hooks).station _ _ _ packed connected _ armed)
    (fun _ => rfl) rfl
  refine .faulted wire packed connected kind armed ?_ untold
  rw [own]
  exact sending.leaves_disarmed _

variable (clear : sending.adapter.refusesWrite = none)
include clear

theorem ends_short {taken : Nat} (limited : sending.adapter.writeLimit = some taken)
    (less : taken < wire.length) : sending.Ends .short := by
  have own : sending.outcome = _ := Station.send_short packed connected clear limited less
  have untold := sending.untold_of_outcomes (fun hooks =>
    @Station.send_short (sending.under hooks).station _ _ _ packed connected clear _ limited less)
    (fun _ => rfl) rfl
  refine .short wire packed connected clear taken limited less ?_ untold
  rw [own]
  exact ⟨rfl, rfl, Adapter.events_cons rfl, sending.adapter.sent_put _, clear, rfl⟩

theorem ends_whole
    (room : ∀ limit, sending.adapter.writeLimit = some limit → wire.length ≤ limit) :
    sending.Ends .whole := by
  have own : sending.outcome = _ := Station.send_whole packed connected clear room
  have told (hooks : Hooks) : sending.notes hooks = _ :=
    congrArg Station.Outcome.notes
      (@Station.send_whole (sending.under hooks).station _ _ _ packed connected clear room)
  have wrote : (sending.adapter.put wire).events = sending.adapter.events ++ [.wrote wire] :=
    Adapter.events_cons rfl
  have drained : (sending.adapter.put wire).drain.events =
      sending.adapter.events ++ [.wrote wire, .drained] := by
    rw [@Adapter.events_cons (sending.adapter.put wire) _ .drained rfl, wrote, List.append_assoc]
    rfl
  refine .whole wire packed connected clear room ?_ (sending.adapter.put wire) wrote
    (sending.adapter.sent_put wire) told
  rw [own]
  exact ⟨rfl, rfl, drained, sending.adapter.sent_put wire, clear, rfl⟩

end Packed

theorem exists_ends : ∃ way, sending.Ends way := by
  -- Which way it is does not depend on the observers, so those at hand decide it for all.
  have sends := sending.station.sends sending.adapter sending.frame
  generalize sending.station.send sending.adapter sending.frame = outcome at sends
  cases sends with
  | unpacked fault unfit => exact ⟨.unpacked, sending.ends_unpacked unfit⟩
  | unconnected wire packed closed => exact ⟨.unconnected, ends_unconnected packed closed⟩
  | faulted wire packed connected kind armed =>
    exact ⟨.faulted, ends_faulted packed connected armed⟩
  | short wire packed connected limit clear limited less =>
    exact ⟨.short, ends_short packed connected clear limited less⟩
  | sent wire packed connected clear room =>
    exact ⟨.whole, ends_whole packed connected clear room⟩

/-- **A send ends in exactly one of the five ways.** -/
theorem existsUnique_ends : ∃! way, sending.Ends way := by
  obtain ⟨way, ends⟩ := sending.exists_ends
  refine ⟨way, ends, ?_⟩
  intro other also
  rw [also.eq_of, ends.eq_of]

/-- What the send puts on the line. -/
def written : List Octets :=
  match sending.frame.encode, sending.outcome.result with
  | .ok wire, .ok () => [wire]
  | .ok wire, .error (.shortWrite taken _) => [wire.take taken]
  | _, _ => []

/-- What the observers are told. -/
def reported : List Octets :=
  match sending.frame.encode, sending.outcome.result with
  | .ok wire, .ok () => [wire]
  | _, _ => []

end Sending

end MeterBus
