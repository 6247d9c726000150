import MeterBus.Fault
import MeterBus.Frame.Wire
import MeterBus.Rate

/-!
# Adapters

A serial adapter with a script in place of a bus: what it will deliver is queued beforehand, and
what is done to it is kept. Every operation is a function from an adapter to its answer and the
adapter afterwards.

* `Adapter.Delivery`: what one read finds, data, silence or a fault.
* `Adapter.Event`: what was done to the adapter.
* `Adapter.openAt`, `Adapter.close`, and between them `read`, `write`, `drain` and `retune`.
* `Adapter.Cue`, `Adapter.cue`: how a script is written.
-/

namespace MeterBus
set_option autoImplicit false

/-- What a read finds on the line. -/
inductive Adapter.Delivery where
  /-- A chunk of data. No read crosses its end. -/
  | data (bytes : Octets)
  /-- Nothing until the read times out. -/
  | silence
  | fault (kind : IoFault.Kind)
  deriving DecidableEq, Repr

/-- What was done to an adapter. -/
inductive Adapter.Event where
  | opened (path : String) (rate : Rate)
  | retuned (rate : Rate)
  | wrote (bytes : Octets)
  | drained
  | closed
  deriving DecidableEq, Repr

/-- A scripted adapter: what is still to come, what was done to it, and what it will refuse. -/
structure Adapter where
  incoming : List Adapter.Delivery := []
  /-- What was done so far, the latest first. -/
  past : List Adapter.Event := []
  /-- The sizes of all reads so far, the latest first. -/
  pastReads : List Nat := []
  /-- All bytes put on the line so far, the latest first. -/
  pastSent : Octets := []
  isOpen : Bool := false
  rate : Option Rate := none
  /-- The objection to being opened, if any. -/
  refusesOpen : Option IoFault := none
  refusesRate : Bool := false
  /-- The most bytes one write takes. -/
  writeLimit : Option Nat := none
  /-- The objection to the next write, if any. -/
  refusesWrite : Option IoFault.Kind := none
  deriving DecidableEq, Repr

namespace Adapter

/-! ## What was done so far -/

/-- What was done, in order. -/
def events (adapter : Adapter) : List Event := adapter.past.reverse

/-- The sizes of all reads, in order. -/
def reads (adapter : Adapter) : List Nat := adapter.pastReads.reverse

/-- All bytes put on the line, in order. -/
def sent (adapter : Adapter) : Octets := adapter.pastSent.reverse

def note (adapter : Adapter) (event : Event) : Adapter :=
  { adapter with past := event :: adapter.past }

/-! ## Operations on an open line -/

/-- What one read of at most `size` bytes makes of the queue. A chunk longer than the read leaves
its rest in front. -/
def take (size : Nat) : List Delivery → Except IoFault Octets × List Delivery
  | [] => (.ok [], [])
  | .silence :: rest => (.ok [], rest)
  | .fault kind :: rest => (.error ⟨kind, "mock read failure"⟩, rest)
  | .data bytes :: rest =>
    (.ok (bytes.take size),
      if (bytes.drop size).isEmpty then rest else .data (bytes.drop size) :: rest)

theorem take_le (size : Nat) (queue : List Delivery) (bytes : Octets)
    (h : (take size queue).1 = .ok bytes) : bytes.length ≤ size := by
  match queue with
  | [] | .silence :: _ =>
    simp only [take, Except.ok.injEq] at h
    subst h
    exact Nat.zero_le size
  | .data chunk :: _ =>
    simp only [take, Except.ok.injEq] at h
    subst h
    rw [List.length_take]
    exact Nat.min_le_left size chunk.length
  | .fault _ :: _ => simp only [take, reduceCtorEq] at h

/-- Reads at most `size` bytes. No bytes are the sign of a silent line. -/
def read (adapter : Adapter) (size : Nat) : Except IoFault Octets × Adapter :=
  let (answer, incoming) := take size adapter.incoming
  (answer, { adapter with incoming := incoming, pastReads := size :: adapter.pastReads })

/-- Puts bytes on the line. -/
def put (adapter : Adapter) (bytes : Octets) : Adapter :=
  { adapter.note (.wrote bytes) with pastSent := bytes.reverse ++ adapter.pastSent }

/-- Writes once and answers how many bytes the line took. -/
def write (adapter : Adapter) (bytes : Octets) : Except IoFault Nat × Adapter :=
  match adapter.refusesWrite with
  | some kind => (.error ⟨kind, "mock write failure"⟩, { adapter with refusesWrite := none })
  | none =>
    let taken := match adapter.writeLimit with
      | none => bytes
      | some limit => bytes.take limit
    (.ok taken.length, adapter.put taken)

/-- Waits until everything written has left. -/
def drain (adapter : Adapter) : Adapter := adapter.note .drained

/-- Drives the line at another rate. -/
def retune (adapter : Adapter) (rate : Rate) : Except IoFault Unit × Adapter :=
  if adapter.refusesRate then (.error ⟨.invalidInput, "mock tcsetattr failure"⟩, adapter)
  else (.ok (), { adapter.note (.retuned rate) with rate := some rate })

/-! ## Opening and closing -/

/-- Opens the adapter under a path. -/
def openAt (adapter : Adapter) (path : String) (rate : Rate) : Except IoFault Unit × Adapter :=
  match adapter.refusesOpen with
  | some fault => (.error fault, adapter)
  | none =>
    (.ok (), { adapter.note (.opened path rate) with isOpen := true, rate := some rate })

/-- Closes the adapter. Its rate stays as it was. -/
def close (adapter : Adapter) : Adapter :=
  { adapter.note .closed with isOpen := false }

/-! ## Writing the script -/

/-- The objection of a scripted adapter to being opened. -/
def absent : IoFault := ⟨.notFound, "no such device"⟩

/-- One line of a script. -/
inductive Cue where
  | data (bytes : Octets)
  /-- A frame as one chunk, an empty one if the frame has no wire form. -/
  | frame (frame : Frame)
  | silence (count : Nat)
  | readFault (kind : IoFault.Kind)
  | refuseOpen (on : Bool)
  | refuseRate (on : Bool)
  | limitWrites (limit : Nat)
  | refuseWrite (kind : IoFault.Kind)
  deriving DecidableEq, Repr

def queue (adapter : Adapter) (deliveries : List Delivery) : Adapter :=
  { adapter with incoming := adapter.incoming ++ deliveries }

def cue (adapter : Adapter) : Cue → Adapter
  | .data bytes => adapter.queue [.data bytes]
  | .frame frame => adapter.queue [.data (frame.encode.toOption.getD [])]
  | .silence count => adapter.queue (List.replicate count .silence)
  | .readFault kind => adapter.queue [.fault kind]
  | .refuseOpen on => { adapter with refusesOpen := if on then some absent else none }
  | .refuseRate on => { adapter with refusesRate := on }
  | .limitWrites limit => { adapter with writeLimit := some limit }
  | .refuseWrite kind => { adapter with refusesWrite := some kind }

end Adapter

end MeterBus
