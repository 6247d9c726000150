import MeterBus.Proofs.Rates
import MeterBus.Station

/-! # What an operation of a station can do

Each operation ends in one of a few ways, told apart by what is asked of it, by the state of the
station and by what the adapter objects to. One relation for each operation lists the ways with the
whole outcome, so that what is said of an operation is said way by way and no operation has to be
opened again.

* `Adapter.Writes`: one write to an adapter.
* `Station.Outcome.state`, `Station.andThen_assoc`: sequences of operations.
* `Station.Sends`, `Station.Reopens`, `Station.Retunes`: the operations that touch the line.
-/
namespace MeterBus
set_option autoImplicit false

/-! ## Writing -/

namespace Adapter

theorem events_cons {adapter later : Adapter} {event : Event}
    (past : later.past = event :: adapter.past) : later.events = adapter.events ++ [event] := by
  rw [events, past]
  exact List.reverse_cons

variable (adapter : Adapter) (bytes : Octets)

inductive Writes : Except IoFault Nat × Adapter → Prop where
  | faulted (kind : IoFault.Kind) (armed : adapter.refusesWrite = some kind) :
    Writes (.error ⟨kind, "mock write failure"⟩, { adapter with refusesWrite := none })
  | short (limit : Nat) (clear : adapter.refusesWrite = none)
    (limited : adapter.writeLimit = some limit) (less : limit < bytes.length) :
    Writes (.ok limit, adapter.put (bytes.take limit))
  | whole (clear : adapter.refusesWrite = none)
    (room : ∀ limit, adapter.writeLimit = some limit → bytes.length ≤ limit) :
    Writes (.ok bytes.length, adapter.put bytes)

theorem writes : adapter.Writes bytes (adapter.write bytes) := by
  unfold write
  cases armed : adapter.refusesWrite with
  | some kind => exact .faulted kind armed
  | none =>
    cases limited : adapter.writeLimit with
    | none => exact .whole armed (by simp [limited])
    | some limit =>
      rcases Nat.lt_or_ge limit bytes.length with less | enough
      · have taken : (bytes.take limit).length = limit := by
          rw [List.length_take]
          omega
        simp only [taken]
        exact .short limit armed limited less
      · have all : bytes.take limit = bytes := List.take_of_length_le enough
        simp only [all]
        refine .whole armed ?_
        intro other same
        obtain rfl := Option.some.inj (limited.symm.trans same)
        exact enough

end Adapter

namespace Station

/-! ## Going on from an outcome -/

section Sequences

variable {α β : Type} {first : Outcome α}

/-- An outcome without its notes. -/
def Outcome.state (outcome : Outcome α) : Except Fault α × Station × Adapter :=
  (outcome.result, outcome.station, outcome.adapter)

theorem andThen_error {fault : Fault} (failed : first.result = .error fault)
    (next : α → Station → Adapter → Outcome β) :
    first.andThen next = { first with result := .error fault } := by
  unfold Outcome.andThen
  rw [failed]

theorem andThen_ok {value : α} (done : first.result = .ok value)
    (next : α → Station → Adapter → Outcome β) :
    first.andThen next =
      { next value first.station first.adapter with
        notes := first.notes ++ (next value first.station first.adapter).notes } := by
  unfold Outcome.andThen
  rw [done]

theorem andThen_assoc {γ : Type} (first : Outcome α) (next : α → Station → Adapter → Outcome β)
    (last : β → Station → Adapter → Outcome γ) :
    (first.andThen next).andThen last =
      first.andThen fun value station adapter => (next value station adapter).andThen last := by
  unfold Outcome.andThen
  cases first.result with
  | error fault => rfl
  | ok value =>
    simp only
    cases (next value first.station first.adapter).result with
    | error fault => rfl
    | ok value' => simp only [List.append_assoc]

end Sequences

/-! ## Sending -/

variable (station : Station) (adapter : Adapter)

inductive Sends (frame : Frame) : Outcome Unit → Prop where
  | unpacked (fault : Frame.EncodeFault) (unfit : frame.encode = .error fault) :
    Sends frame (station.refuse adapter (.encode fault.message))
  | unconnected (bytes : Octets) (packed : frame.encode = .ok bytes)
    (closed : ¬ station.connected = true) : Sends frame (station.refuse adapter .notConnected)
  | faulted (bytes : Octets) (packed : frame.encode = .ok bytes)
    (connected : station.connected = true) (kind : IoFault.Kind)
    (armed : adapter.refusesWrite = some kind) :
    Sends frame (station.refuse { adapter with refusesWrite := none }
      (.write ⟨kind, "mock write failure"⟩))
  | short (bytes : Octets) (packed : frame.encode = .ok bytes)
    (connected : station.connected = true) (limit : Nat) (clear : adapter.refusesWrite = none)
    (limited : adapter.writeLimit = some limit) (less : limit < bytes.length) :
    Sends frame
      { result := .error (.shortWrite limit bytes.length), station,
        adapter := adapter.put (bytes.take limit),
        notes := [.remark .warn (station.device ++ ": short write (" ++ toString limit ++ " of " ++
          toString bytes.length ++ " bytes)")] }
  | sent (bytes : Octets) (packed : frame.encode = .ok bytes)
    (connected : station.connected = true) (clear : adapter.refusesWrite = none)
    (room : ∀ limit, adapter.writeLimit = some limit → bytes.length ≤ limit) :
    Sends frame
      { result := .ok (), station, adapter := (adapter.put bytes).drain,
        notes := station.hooks.fireSend (adapter.put bytes) bytes }

theorem sends (frame : Frame) : station.Sends adapter frame (station.send adapter frame) := by
  unfold send
  cases packed : frame.encode with
  | error fault => exact .unpacked fault packed
  | ok bytes =>
    by_cases connected : station.connected = true
    · have writes := adapter.writes bytes
      simp only [if_pos connected]
      generalize adapter.write bytes = answer at writes ⊢
      cases writes with
      | faulted kind armed => exact .faulted bytes packed connected kind armed
      | short limit clear limited less =>
        simp only [if_neg (Nat.ne_of_lt less)]
        exact .short bytes packed connected limit clear limited less
      | whole clear room =>
        simp only [if_true]
        exact .sent bytes packed connected clear room
    · simp only [if_neg connected]
      exact .unconnected bytes packed connected

/-! ## Opening -/

inductive Reopens : Outcome Unit → Prop where
  | refused (cause : IoFault) (objects : adapter.refusesOpen = some cause) :
    Reopens (refuse { station with connected := false, rate := Rate.initial } (station.drop adapter)
      (.connect station.device cause))
  | opened (clear : adapter.refusesOpen = none) :
    Reopens
      { result := .ok (), station := { station with connected := true, rate := Rate.initial },
        adapter := { (station.drop adapter).note (.opened station.device Rate.initial) with
          isOpen := true, rate := some Rate.initial },
        notes := [.remark .debug
          ("Connected to " ++ station.device ++ " at " ++ Rate.initial.text ++ " baud")] }

theorem refusesOpen_drop : (station.drop adapter).refusesOpen = adapter.refusesOpen := by
  unfold drop
  split <;> rfl

theorem reopens : station.Reopens adapter (station.reconnect adapter) := by
  have same := station.refusesOpen_drop adapter
  unfold reconnect Adapter.openAt
  cases objects : (station.drop adapter).refusesOpen with
  | some cause => exact .refused cause (same.symm.trans objects)
  | none => exact .opened (same.symm.trans objects)

/-! ## Retuning -/

inductive Retunes (number : Nat) : Outcome Unit → Prop where
  | unsupported (unknown : Rate.ofNumber? number = none) :
    Retunes number (station.refuse adapter (.unsupportedRate number))
  | unconnected (rate : Rate) (known : Rate.ofNumber? number = some rate)
    (closed : ¬ station.connected = true) : Retunes number (station.refuse adapter .notConnected)
  | refused (rate : Rate) (known : Rate.ofNumber? number = some rate)
    (connected : station.connected = true) (objects : adapter.refusesRate = true) :
    Retunes number
      (station.refuse adapter (.io ⟨.invalidInput, "mock tcsetattr failure"⟩))
  | retuned (rate : Rate) (known : Rate.ofNumber? number = some rate)
    (connected : station.connected = true) (clear : adapter.refusesRate = false) :
    Retunes number
      { result := .ok (), station := { station with rate },
        adapter := { adapter.note (.retuned rate) with rate := some rate },
        notes := [.remark .debug (station.device ++ ": baud rate " ++ rate.text ++ " (timeout " ++
          rate.timeoutText ++ ")")] }

theorem retunes (number : Nat) :
    station.Retunes adapter number (station.setRate adapter number) := by
  unfold setRate
  cases known : Rate.ofNumber? number with
  | none => exact .unsupported known
  | some rate =>
    by_cases connected : station.connected = true
    · simp only [if_pos connected]
      unfold Adapter.retune
      cases objects : adapter.refusesRate with
      | true => exact .refused rate known connected objects
      | false => exact .retuned rate known connected objects
    · simp only [if_neg connected]
      exact .unconnected rate known connected

end Station

end MeterBus
