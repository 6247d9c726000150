import Mathlib.Logic.ExistsUnique
import MeterBus.Probe
import MeterBus.Proofs.Reception.Stream
import MeterBus.Proofs.Station.Operations
import MeterBus.Proofs.Station.Upkeep

/-! # The paths a probe can take

A probe writes once, opens the line afresh, switches the rate and then listens. It ends at the
first of these that fails, and each end leaves the line in a state of its own.

* `Probe.prepare`: everything up to the first reception.
* `Prepares`: the ways the preparation ends, each with the whole state it leaves.
* `Polls`: what listening comes to, said with receptions in a row.
* `Probe.Path`, `Takes`: the five paths.
-/
namespace MeterBus
open Station (Outcome)
set_option autoImplicit false

namespace Station

/-! ## Receptions in a row -/

section Connected

variable {station : Station} (connected : station.connected = true) (adapter : Adapter)
  (count : Nat)
include connected

/-- Receptions change nothing on an adapter that its reads leave alone. -/
theorem receiveTimes_keeps {α : Type} (view : Adapter → α)
    (keeps : ∀ adapter size, view (Adapter.read adapter size).2 = view adapter) :
    view (station.receiveTimes adapter count).adapter = view adapter := by
  induction count generalizing adapter with
  | zero => rfl
  | succ count ih =>
    have once : view (station.receive adapter).adapter = view adapter := by
      rw [receive_adapter connected]
      exact Reception.gather_keeps Adapter.source view keeps Decoder.link adapter [] 0 [] _
    rw [adapter_succ connected]
    exact (ih (station.receive adapter).adapter).trans once

end Connected

end Station

namespace Probe

variable (probe : Probe) (station : Station) (adapter : Adapter) (address : UInt8)

/-! ## The preparation -/

def wake (address : UInt8) : Octets := [Link.shortStart, 0x7B, address, 0x7B + address, Link.stop]

theorem encode_wakeRequest : (Frame.wakeRequest address).encode = .ok (wake address) := rfl

/-- All of a run up to the first reception. -/
def prepare : Outcome Unit :=
  (station.send adapter (Frame.wakeRequest address))
    |>.andThen (fun _ station adapter => station.disconnect adapter)
    |>.andThen (fun _ station adapter => station.reconnect adapter)
    |>.andThen (fun _ station adapter => station.setRate adapter probe.target.number)

theorem run_eq :
    probe.run station adapter address =
      { (probe.prepare station adapter address).andThen fun _ station adapter =>
          probe.listen address probe.attempts station adapter with
        notes := probe.openingNote address station.rate ::
          ((probe.prepare station adapter address).andThen fun _ station adapter =>
            probe.listen address probe.attempts station adapter).notes } := rfl

/-- The adapter after a write that all went out and the closing behind it. -/
def woken : Adapter := ((adapter.put (wake address)).drain).close

def reopened : Adapter :=
  { (woken adapter address).note (.opened station.device Rate.initial) with
    isOpen := true, rate := some Rate.initial }

def retuned : Adapter :=
  { (reopened station adapter address).note (.retuned probe.target) with rate := some probe.target }

structure Wakes : Prop where
  connected : station.connected = true
  clear : adapter.refusesWrite = none
  room : ∀ limit, adapter.writeLimit = some limit → 5 ≤ limit

inductive Prepares : Except Fault Unit × Station × Adapter → Prop where
  | unconnected (closed : ¬ station.connected = true) :
    Prepares (.error .notConnected, station, adapter)
  | faulted (connected : station.connected = true) (kind : IoFault.Kind)
    (armed : adapter.refusesWrite = some kind) :
    Prepares (.error (.write ⟨kind, "mock write failure"⟩), station,
      { adapter with refusesWrite := none })
  | short (connected : station.connected = true) (limit : Nat) (clear : adapter.refusesWrite = none)
    (limited : adapter.writeLimit = some limit) (less : limit < 5) :
    Prepares (.error (.shortWrite limit 5), station,
      adapter.put ((wake address).take limit))
  | unopened (wakes : Wakes station adapter) (cause : IoFault)
    (objects : adapter.refusesOpen = some cause) :
    Prepares (.error (.connect station.device cause),
      { station with connected := false, rate := Rate.initial }, woken adapter address)
  | untuned (wakes : Wakes station adapter) (opens : adapter.refusesOpen = none)
    (objects : adapter.refusesRate = true) :
    Prepares (.error (.io ⟨.invalidInput, "mock tcsetattr failure"⟩),
      { station with connected := true, rate := Rate.initial }, reopened station adapter address)
  | ready (wakes : Wakes station adapter) (opens : adapter.refusesOpen = none)
    (clear : adapter.refusesRate = false) :
    Prepares (.ok (), { station with connected := true, rate := probe.target },
      retuned probe station adapter address)

variable {station adapter} in
theorem prepares_reopened (wakes : Wakes station adapter) (opens : adapter.refusesOpen = none) :
    probe.Prepares station adapter address
      (Station.setRate { station with connected := true, rate := Rate.initial }
        (reopened station adapter address) probe.target.number).state := by
  have retunes := Station.retunes { station with connected := true, rate := Rate.initial }
    (reopened station adapter address) probe.target.number
  generalize Station.setRate _ _ probe.target.number = tuned at retunes ⊢
  cases retunes with
  | unsupported unknown =>
    rw [Rate.ofNumber?_number] at unknown
    exact nomatch unknown
  | unconnected rate known closed => exact absurd rfl closed
  | refused rate known connected objects => exact .untuned wakes opens objects
  | retuned rate known connected clear =>
    rw [Rate.ofNumber?_number] at known
    obtain rfl := Option.some.inj known
    exact .ready wakes opens clear

variable {station adapter} in
theorem prepares_woken (wakes : Wakes station adapter) :
    probe.Prepares station adapter address
      ((Station.reconnect { station with connected := false } (woken adapter address)).andThen
        fun _ station adapter => station.setRate adapter probe.target.number).state := by
  have reopens := Station.reopens { station with connected := false } (woken adapter address)
  generalize Station.reconnect _ (woken adapter address) = opened at reopens ⊢
  cases reopens with
  | refused cause objects => exact .unopened wakes cause objects
  | opened opens => exact prepares_reopened probe address wakes opens

theorem prepares :
    probe.Prepares station adapter address (probe.prepare station adapter address).state := by
  have sends := station.sends adapter (Frame.wakeRequest address)
  rw [prepare, Station.andThen_assoc, Station.andThen_assoc]
  generalize station.send adapter (Frame.wakeRequest address) = sent at sends ⊢
  cases sends with
  | unpacked fault unfit =>
    rw [encode_wakeRequest] at unfit
    exact nomatch unfit
  | unconnected bytes packed closed => exact .unconnected closed
  | faulted bytes packed connected kind armed => exact .faulted connected kind armed
  | short bytes packed connected limit clear limited less =>
    rw [encode_wakeRequest] at packed
    obtain rfl := Except.ok.inj packed
    exact .short connected limit clear limited less
  | sent bytes packed connected clear room =>
    rw [encode_wakeRequest] at packed
    obtain rfl := Except.ok.inj packed
    simp only [Outcome.andThen, Station.disconnect, if_pos connected]
    exact prepares_woken probe address ⟨connected, clear, room⟩

/-! ## Listening -/

/-- What listening comes to: receptions in a row up to the first that brings a frame, or all of
them. -/
inductive Polls (left : Nat) : Except Fault Frame × Station × Adapter → Prop where
  | answered (faults : List Fault) (frame : Frame) (within : faults.length < left)
    (results : (station.receiveTimes adapter (faults.length + 1)).results =
      faults.map .error ++ [.ok frame]) :
    Polls left (.ok frame, station, (station.receiveTimes adapter (faults.length + 1)).adapter)
  | unanswered (faults : List Fault) (all : faults.length = left)
    (results : (station.receiveTimes adapter faults.length).results = faults.map .error) :
    Polls left (.error (.noResponse address probe.attempts), station,
      (station.receiveTimes adapter faults.length).adapter)

section Listening

variable {station} {adapter}

theorem listen_answered {frame : Frame} (heard : (station.receive adapter).result = .ok frame)
    (left : Nat) :
    (probe.listen address (left + 1) station adapter).state =
      (.ok frame, (station.receive adapter).station, (station.receive adapter).adapter) := by
  simp only [listen, heard]
  rfl

theorem listen_missed {fault : Fault} (missed : (station.receive adapter).result = .error fault)
    (left : Nat) :
    (probe.listen address (left + 1) station adapter).state =
      (probe.listen address left (station.receive adapter).station
        (station.receive adapter).adapter).state := by
  simp only [listen, missed]
  rfl

variable {probe} {address} in
theorem Polls.receptions {left : Nat} {result : Except Fault Frame} {after : Station}
    {line : Adapter} (h : probe.Polls station adapter address left (result, after, line)) :
    after = station ∧ ∃ count ≤ left, line = (station.receiveTimes adapter count).adapter := by
  cases h with
  | answered faults frame within results => exact ⟨rfl, faults.length + 1, within, rfl⟩
  | unanswered faults all results => exact ⟨rfl, faults.length, Nat.le_of_eq all, rfl⟩

variable (connected : station.connected = true)
include connected

theorem listen_polls (left : Nat) :
    probe.Polls station adapter address left (probe.listen address left station adapter).state := by
  induction left generalizing adapter with
  | zero => exact .unanswered [] rfl rfl
  | succ left ih =>
    cases heard : (station.receive adapter).result with
    | ok frame =>
      rw [listen_answered probe address heard, Station.receive_station connected]
      refine .answered [] frame (Nat.succ_pos left) ?_
      simp only [List.length_nil, Station.receiveTimes, heard]
      rfl
    | error fault =>
      rw [listen_missed probe address heard, Station.receive_station connected]
      have polls := @ih (station.receive adapter).adapter
      generalize (probe.listen address left station _).state = state at polls ⊢
      cases polls with
      | answered faults frame within results =>
        rw [← Station.adapter_succ connected]
        refine .answered (fault :: faults) frame (Nat.succ_lt_succ within) ?_
        rw [List.length_cons, Station.results_succ connected, heard, results]
        rfl
      | unanswered faults all results =>
        rw [← Station.adapter_succ connected]
        refine .unanswered (fault :: faults) (congrArg Nat.succ all) ?_
        rw [List.length_cons, Station.results_succ connected, heard, results]
        rfl

end Listening

/-! ## The paths -/

section Whole

variable {after : Station} {line : Adapter}

theorem run_failed {fault : Fault}
    (failed : (probe.prepare station adapter address).state = (.error fault, after, line)) :
    (probe.run station adapter address).state = (.error fault, after, line) := by
  obtain ⟨result, rest⟩ := Prod.mk.inj failed
  obtain ⟨rfl, rfl⟩ := Prod.mk.inj rest
  rw [run_eq, Station.andThen_error result]
  rfl

theorem run_ready (ready : (probe.prepare station adapter address).state = (.ok (), after, line)) :
    (probe.run station adapter address).state =
      (probe.listen address probe.attempts after line).state := by
  obtain ⟨result, rest⟩ := Prod.mk.inj ready
  obtain ⟨rfl, rfl⟩ := Prod.mk.inj rest
  rw [run_eq, Station.andThen_ok result]
  rfl

end Whole

/-- `Underwent before events after`: this was done to the adapter, in order, and nothing was read. -/
structure Underwent (before : Adapter) (events : List Adapter.Event) (after : Adapter) : Prop where
  events : after.events = before.events ++ events
  reads : after.reads = before.reads
  incoming : after.incoming = before.incoming

theorem Underwent.refl : Underwent adapter [] adapter where
  events := (List.append_nil adapter.events).symm
  reads := rfl
  incoming := rfl

theorem Underwent.followed {before after later : Adapter} {events : List Adapter.Event}
    {event : Adapter.Event} (h : Underwent before events after)
    (past : later.past = event :: after.past) (reads : later.pastReads = after.pastReads)
    (incoming : later.incoming = after.incoming) : Underwent before (events ++ [event]) later where
  events := by
    rw [Adapter.events_cons past, h.events, List.append_assoc]
  reads := by
    rw [Adapter.reads, reads]
    exact h.reads
  incoming := incoming.trans h.incoming

theorem underwent_wrote (bytes : Octets) :
    Underwent adapter [.wrote bytes] (adapter.put bytes) :=
  (Underwent.refl adapter).followed rfl rfl rfl

theorem underwent_woken :
    Underwent adapter [.wrote (wake address), .drained, .closed] (woken adapter address) := by
  have wrote := underwent_wrote adapter (wake address)
  have drained : Underwent adapter [.wrote (wake address), .drained]
      (adapter.put (wake address)).drain := wrote.followed rfl rfl rfl
  exact drained.followed rfl rfl rfl

theorem underwent_reopened :
    Underwent adapter
      [.wrote (wake address), .drained, .closed, .opened station.device Rate.initial]
      (reopened station adapter address) :=
  (underwent_woken adapter address).followed rfl rfl rfl

theorem underwent_retuned :
    Underwent adapter
      [.wrote (wake address), .drained, .closed, .opened station.device Rate.initial,
        .retuned probe.target]
      (retuned probe station adapter address) :=
  (underwent_reopened station adapter address).followed rfl rfl rfl

/-- Where a probe ends. -/
inductive Path where
  | unconnected
  | unwoken
  | unopened
  | untuned
  | listened
  deriving DecidableEq, Repr

/-- `Takes result after line path`: when a probe takes the path, and the result, the station and the
adapter it leaves there. -/
inductive Takes : Except Fault Frame → Station → Adapter → Path → Prop where
  | unconnected (closed : ¬ station.connected = true) :
    Takes (.error .notConnected) station adapter .unconnected
  | faulted (connected : station.connected = true) (kind : IoFault.Kind)
    (armed : adapter.refusesWrite = some kind) (line : Adapter)
    (isOpen : line.isOpen = adapter.isOpen) (rate : line.rate = adapter.rate)
    (underwent : Underwent adapter [] line) :
    Takes (.error (.write ⟨kind, "mock write failure"⟩)) station line .unwoken
  | short (connected : station.connected = true) (limit : Nat) (clear : adapter.refusesWrite = none)
    (limited : adapter.writeLimit = some limit) (less : limit < 5) (line : Adapter)
    (isOpen : line.isOpen = adapter.isOpen) (rate : line.rate = adapter.rate)
    (underwent : Underwent adapter [.wrote ((wake address).take limit)] line) :
    Takes (.error (.shortWrite limit 5)) station line .unwoken
  | unopened (wakes : Wakes station adapter) (cause : IoFault)
    (objects : adapter.refusesOpen = some cause) (line : Adapter) (isOpen : line.isOpen = false)
    (underwent : Underwent adapter [.wrote (wake address), .drained, .closed] line) :
    Takes (.error (.connect station.device cause))
      { station with connected := false, rate := Rate.initial } line .unopened
  | untuned (wakes : Wakes station adapter) (opens : adapter.refusesOpen = none)
    (objects : adapter.refusesRate = true) (line : Adapter) (isOpen : line.isOpen = true)
    (rate : line.rate = some Rate.initial)
    (underwent : Underwent adapter
      [.wrote (wake address), .drained, .closed, .opened station.device Rate.initial] line) :
    Takes (.error (.io ⟨.invalidInput, "mock tcsetattr failure"⟩))
      { station with connected := true, rate := Rate.initial } line .untuned
  | listened (wakes : Wakes station adapter) (opens : adapter.refusesOpen = none)
    (clear : adapter.refusesRate = false) (fresh : Adapter)
    (underwent : Underwent adapter
      [.wrote (wake address), .drained, .closed, .opened station.device Rate.initial,
        .retuned probe.target] fresh)
    (result : Except Fault Frame) (line : Adapter)
    (polls : probe.Polls { station with connected := true, rate := probe.target } fresh address
      probe.attempts (result, { station with connected := true, rate := probe.target }, line))
    (events : line.events = fresh.events) (isOpen : line.isOpen = true)
    (rate : line.rate = some probe.target) :
    Takes result { station with connected := true, rate := probe.target } line .listened

/-- The path that ends with this result. -/
def Path.of : Except Fault Frame → Path
  | .error .notConnected => .unconnected
  | .error (.write _) | .error (.shortWrite _ _) => .unwoken
  | .error (.connect _ _) => .unopened
  | .error (.io _) => .untuned
  | _ => .listened

variable {probe station adapter address} in
theorem Takes.eq_of {result : Except Fault Frame} {after : Station} {line : Adapter} {path : Path}
    (h : probe.Takes station adapter address result after line path) : path = Path.of result := by
  cases h with
  | unconnected | faulted | short | unopened | untuned => rfl
  | listened wakes opens clear fresh underwent result line polls =>
    cases polls with
    | answered faults frame within results => rfl
    | unanswered faults all results => rfl

variable {probe station adapter address} in
theorem takes_of_failed {fault : Fault} {after : Station} {line : Adapter} {path : Path}
    (failed : (probe.prepare station adapter address).state = (.error fault, after, line))
    (took : probe.Takes station adapter address (.error fault) after line path) :
    probe.Takes station adapter address (probe.run station adapter address).result
      (probe.run station adapter address).station (probe.run station adapter address).adapter
      path := by
  obtain ⟨result, rest⟩ := Prod.mk.inj (run_failed probe station adapter address failed)
  obtain ⟨rfl, rfl⟩ := Prod.mk.inj rest
  rwa [result]

variable {station adapter address} in
theorem takes_listened (wakes : Wakes station adapter) (opens : adapter.refusesOpen = none)
    (clear : adapter.refusesRate = false) {result : Except Fault Frame} {after : Station}
    {line : Adapter}
    (polls : probe.Polls { station with connected := true, rate := probe.target }
      (retuned probe station adapter address) address probe.attempts (result, after, line)) :
    probe.Takes station adapter address result after line .listened := by
  have underwent := probe.underwent_retuned station adapter address
  obtain ⟨rfl, count, _, rfl⟩ := polls.receptions
  have keeps {α : Type} (view : Adapter → α) :=
    @Station.receiveTimes_keeps { station with connected := true, rate := probe.target } rfl
      (retuned probe station adapter address) count α view
  exact .listened wakes opens clear _ underwent result _ polls
    (keeps Adapter.events fun _ _ => rfl) (keeps Adapter.isOpen fun _ _ => rfl)
    (keeps Adapter.rate fun _ _ => rfl)

theorem exists_takes : ∃ path, probe.Takes station adapter address
    (probe.run station adapter address).result (probe.run station adapter address).station
    (probe.run station adapter address).adapter path := by
  have prepares := probe.prepares station adapter address
  generalize ready : (probe.prepare station adapter address).state = state at prepares
  -- Five ways to fail end the run where the preparation ended; the sixth goes on to listen.
  cases prepares with
  | unconnected closed => exact ⟨.unconnected, takes_of_failed ready (.unconnected closed)⟩
  | faulted connected kind armed =>
    have underwent : Underwent adapter [] { adapter with refusesWrite := none } :=
      ⟨(Underwent.refl adapter).events, rfl, rfl⟩
    exact ⟨.unwoken, takes_of_failed ready (.faulted connected kind armed _ rfl rfl underwent)⟩
  | short connected limit clear limited less =>
    have underwent := underwent_wrote adapter ((wake address).take limit)
    exact ⟨.unwoken,
      takes_of_failed ready (.short connected limit clear limited less _ rfl rfl underwent)⟩
  | unopened wakes cause objects =>
    have underwent := underwent_woken adapter address
    exact ⟨.unopened, takes_of_failed ready (.unopened wakes cause objects _ rfl underwent)⟩
  | untuned wakes opens objects =>
    have underwent := underwent_reopened station adapter address
    exact ⟨.untuned, takes_of_failed ready (.untuned wakes opens objects _ rfl rfl underwent)⟩
  | ready wakes opens clear =>
    have run := run_ready probe station adapter address ready
    have polls := @listen_polls probe { station with connected := true, rate := probe.target }
      (retuned probe station adapter address) address rfl probe.attempts
    rw [← run] at polls
    exact ⟨.listened, takes_listened probe wakes opens clear polls⟩

/-- **A probe takes exactly one of its five paths.** Each has the first objection of the line as its
condition and leaves a result, events and a rate of its own. -/
theorem run_paths : ∃! path, probe.Takes station adapter address
    (probe.run station adapter address).result (probe.run station adapter address).station
    (probe.run station adapter address).adapter path := by
  obtain ⟨path, took⟩ := probe.exists_takes station adapter address
  refine ⟨path, took, ?_⟩
  intro other also
  rw [also.eq_of, took.eq_of]

end Probe

end MeterBus
