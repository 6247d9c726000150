import MeterBus.Probe

/-!
# Sessions

Several adapters at once, with named stations and named bare lines on them, driven step by step.
Each step answers with its result and with everything that can be seen of it: the events and read
sizes of its adapter, the notes, and the state of adapter and station behind it.

* `Session`: the adapters and who uses them.
* `Session.Step`: cues, connections, requests to stations and to lines.
* `Session.perform`, `Session.run`: one step, and all of them.
* `Session.Answer`: what is seen of a step.
-/

namespace MeterBus
set_option autoImplicit false

/-! ## Steps -/

inductive Station.Request where
  /-- Nothing, to look at its state. -/
  | rest
  | reconnect
  | disconnect
  | setRate (number : Nat)
  | send (frame : Frame)
  | receive (decoder : Decoder)
  | exchange (frame : Frame)
  | poll (address : UInt8)
  | probe (probe : Probe) (address : UInt8)

inductive Adapter.Request where
  | read (size : Nat)
  | write (bytes : Octets)
  | drain
  | retune (rate : Rate)
  | receive (decoder : Decoder) (hooks : Hooks)

/-- One step of a session. -/
inductive Session.Step where
  /-- A line of script for an adapter. -/
  | cue (adapter : Nat) (cue : Adapter.Cue)
  /-- A new station, in place of one of that name. -/
  | connect (adapter : Nat) (name device : String) (hooks : Hooks)
  | request (name : String) (request : Station.Request)
  | drop (name : String)
  /-- A new bare line, in place of one of that name. -/
  | openLine (adapter : Nat) (name path : String) (rate : Rate)
  | line (name : String) (request : Adapter.Request)
  | closeLine (name : String)

/-! ## Answers -/

inductive Session.Reply where
  | done
  | frame (frame : Frame)
  | bytes (bytes : Octets)
  | count (count : Nat)
  deriving DecidableEq, Repr

inductive Session.Failure where
  | fault (fault : Fault)
  | io (fault : IoFault)
  | noStation
  | noLine
  deriving DecidableEq, Repr

structure Session.Answer where
  result : Except Session.Failure Session.Reply
  /-- What was done to the adapter of the step. -/
  events : List Adapter.Event
  reads : List Nat
  notes : List Note
  adapterOpen : Bool
  adapterRate : Option Rate
  /-- The station afterwards, if one was asked. -/
  station : Option Station

def Session.Answer.records (answer : Session.Answer) : List Record :=
  answer.notes.filterMap Note.record?

/-- The log lines of a step at a threshold. -/
def Session.Answer.log (answer : Session.Answer) (threshold : Log.Threshold) : List String :=
  (Log.kept threshold (answer.notes.filterMap Note.entry?)).map Log.Entry.line

/-- The sizes of the buffers that the decoder was shown. -/
def Session.Answer.shown (answer : Session.Answer) : List Nat :=
  (answer.notes.filterMap Note.shown?).map List.length

/-! ## State -/

/-- A value bound to an adapter by the adapter's number. -/
structure Session.OnAdapter (α : Type) where
  adapter : Nat
  value : α

/-- The adapters, and the stations and bare lines on them by name. -/
structure Session where
  adapters : List Adapter
  stations : List (String × Session.OnAdapter Station) := []
  lines : List (String × Session.OnAdapter Unit) := []

namespace Session

def fresh (adapters : Nat) : Session := { adapters := List.replicate adapters {} }

def adapter (session : Session) (index : Nat) : Adapter := session.adapters.getD index {}

def setAdapter (session : Session) (index : Nat) (adapter : Adapter) : Session :=
  { session with adapters := session.adapters.set index adapter }

/-- The bindings without that name. -/
def without {α : Type} (name : String) (bound : List (String × α)) : List (String × α) :=
  bound.filter fun entry => entry.1 != name

/-- Lets go of the station of that name, closing its adapter if it is connected. -/
def dropStation (session : Session) (name : String) : Session :=
  match session.stations.lookup name with
  | none => session
  | some held =>
    { session.setAdapter held.adapter (held.value.drop (session.adapter held.adapter)) with
      stations := without name session.stations }

/-- Lets go of the bare line of that name, closing its adapter. -/
def dropLine (session : Session) (name : String) : Session :=
  match session.lines.lookup name with
  | none => session
  | some held =>
    { session.setAdapter held.adapter (session.adapter held.adapter).close with
      lines := without name session.lines }

/-! ## Requests -/

def reply {α : Type} (outcome : Station.Outcome α) (value : α → Reply) : Station.Outcome Reply :=
  { outcome with result := outcome.result.map value }

def ask (station : Station) (adapter : Adapter) : Station.Request → Station.Outcome Reply
  | .rest => { result := .ok .done, station, adapter }
  | .reconnect => reply (station.reconnect adapter) fun _ => .done
  | .disconnect => reply (station.disconnect adapter) fun _ => .done
  | .setRate number => reply (station.setRate adapter number) fun _ => .done
  | .send frame => reply (station.send adapter frame) fun _ => .done
  | .receive decoder => reply (station.receiveWith adapter decoder) .frame
  | .exchange frame => reply (station.exchange adapter frame) .frame
  | .poll address => reply (station.poll adapter address) .frame
  | .probe probe address => reply (probe.run station adapter address) .frame

/-- What a bare line makes of a request: the result, the adapter and the notes. -/
def askLine (adapter : Adapter) : Adapter.Request → Except Failure Reply × Adapter × List Note
  | .read size =>
    let (answer, adapter) := adapter.read size
    ((answer.map .bytes).mapError .io, adapter, [])
  | .write bytes =>
    let (answer, adapter) := adapter.write bytes
    ((answer.map .count).mapError .io, adapter, [])
  | .drain => (.ok .done, adapter.drain, [])
  | .retune rate =>
    let (answer, adapter) := adapter.retune rate
    ((answer.map fun _ => .done).mapError .io, adapter, [])
  | .receive decoder hooks =>
    let heard := Reception.receive hooks decoder adapter
    ((heard.result.map .frame).mapError .fault, heard.adapter, heard.notes)

/-! ## Performing steps -/

/-- The number of the adapter a step is about. A name nobody bears stands for adapter 0. -/
def adapterOf (session : Session) : Step → Nat
  | .cue adapter _ | .connect adapter _ _ _ | .openLine adapter _ _ _ => adapter
  | .request name _ | .drop name => (session.stations.lookup name).elim 0 (·.adapter)
  | .line name _ | .closeLine name => (session.lines.lookup name).elim 0 (·.adapter)

/-- What became of a step, before it is compared with the state in front of it. -/
structure Effect where
  session : Session
  result : Except Failure Reply
  notes : List Note := []
  station : Option Station := none

def effect (session : Session) : Step → Effect
  | .cue index cue =>
    { session := session.setAdapter index ((session.adapter index).cue cue), result := .ok .done }
  | .connect index name device hooks =>
    let session := session.dropStation name
    let made := Station.connect device hooks (session.adapter index)
    let session := session.setAdapter index made.adapter
    match made.result with
    | .error fault => { session, result := .error (.fault fault), notes := made.notes }
    | .ok () =>
      { session := { session with stations := (name, ⟨index, made.station⟩) :: session.stations },
        result := .ok .done, notes := made.notes }
  | .request name request =>
    match session.stations.lookup name with
    | none => { session, result := .error .noStation }
    | some held =>
      let made := ask held.value (session.adapter held.adapter) request
      let moved := session.setAdapter held.adapter made.adapter
      { session := { moved with
          stations := (name, ⟨held.adapter, made.station⟩) :: without name session.stations },
        result := made.result.mapError .fault, notes := made.notes, station := some made.station }
  | .drop name =>
    match session.stations.lookup name with
    | none => { session, result := .error .noStation }
    | some _ => { session := session.dropStation name, result := .ok .done }
  | .openLine index name path rate =>
    let session := session.dropLine name
    match (session.adapter index).openAt path rate with
    | (.error fault, adapter) =>
      { session := session.setAdapter index adapter, result := .error (.io fault) }
    | (.ok (), adapter) =>
      let session := session.setAdapter index adapter
      { session := { session with lines := (name, ⟨index, ()⟩) :: session.lines },
        result := .ok .done }
  | .line name request =>
    match session.lines.lookup name with
    | none => { session, result := .error .noLine }
    | some held =>
      let (result, adapter, notes) := askLine (session.adapter held.adapter) request
      { session := session.setAdapter held.adapter adapter, result, notes }
  | .closeLine name =>
    match session.lines.lookup name with
    | none => { session, result := .error .noLine }
    | some _ => { session := session.dropLine name, result := .ok .done }

/-- The part of a list that is not yet in an earlier state of it, in order, if both have their
latest entries in front. -/
def since {α : Type} (before after : List α) : List α :=
  (after.take (after.length - before.length)).reverse

/-- One step: what is seen of it, and the session afterwards. -/
def perform (session : Session) (step : Step) : Answer × Session :=
  let index := session.adapterOf step
  let before := session.adapter index
  let effect := session.effect step
  let after := effect.session.adapter index
  ({ result := effect.result
     events := since before.past after.past
     reads := since before.pastReads after.pastReads
     notes := effect.notes
     adapterOpen := after.isOpen
     adapterRate := after.rate
     station := effect.station }, effect.session)

/-- All steps: what is seen of each, and the session at the end. -/
def run (session : Session) : List Step → List Answer × Session
  | [] => ([], session)
  | step :: steps =>
    let (answer, next) := session.perform step
    let (answers, last) := next.run steps
    (answer :: answers, last)

end Session

end MeterBus
