import MeterBus.Proofs.Station.Transmission

/-! # All of a change or nothing of it

A station and its line take on another rate together or not at all, and a station that opens its
device again has the line at the initial rate afterwards or has none. Without a line it leaves the
adapter alone, whatever is asked of it, until it opens the device again.

* `RateChange`, `Reopening`: what the two changes come to.
* `ask_closed`, `ask_needsLine`: what a station without a line makes of a request.
-/
namespace MeterBus
set_option autoImplicit false

namespace Station

/-! ## Another rate -/

/-- What becomes of the wish for another rate: station and line both follow it, or the first
objection is told and nothing has changed. -/
structure RateChange (station : Station) (adapter : Adapter) (number : Nat)
    (outcome : Outcome Unit) : Prop where
  done_iff : outcome.result = .ok () ↔
    number ∈ [300, 1200, 2400, 9600] ∧ station.connected = true ∧ adapter.refusesRate = false
  done : outcome.result = .ok () → ∃ rate : Rate, rate.number = number ∧
    outcome.station = { station with rate } ∧ outcome.adapter.rate = some rate ∧
    outcome.adapter.events = adapter.events ++ [.retuned rate]
  unsupported : number ∉ [300, 1200, 2400, 9600] →
    outcome.result = .error (.unsupportedRate number)
  unconnected : number ∈ [300, 1200, 2400, 9600] → station.connected = false →
    outcome.result = .error .notConnected
  refused : number ∈ [300, 1200, 2400, 9600] → station.connected = true →
    adapter.refusesRate = true → ∃ cause, outcome.result = .error (.io cause)
  unchanged : outcome.result ≠ .ok () → outcome.station = station ∧ outcome.adapter = adapter

section

variable (station : Station) (adapter : Adapter)

theorem rateChange (number : Nat) :
    station.RateChange adapter number (station.setRate adapter number) := by
  have retunes := station.retunes adapter number
  have supported := Rate.mem_numbers_iff number
  generalize station.setRate adapter number = outcome at retunes ⊢
  cases retunes with
  | unsupported unknown =>
    have not : number ∉ [300, 1200, 2400, 9600] := by
      rw [supported, unknown]
      simp
    exact ⟨by simp [refuse, not], by simp [refuse], fun _ => rfl, fun is => absurd is not,
      fun is => absurd is not, fun _ => ⟨rfl, rfl⟩⟩
  | unconnected rate known closed =>
    have is := supported.mpr ⟨rate, known⟩
    exact ⟨by simp [refuse, closed], by simp [refuse], fun not => absurd is not, fun _ _ => rfl,
      fun _ connected => absurd connected closed, fun _ => ⟨rfl, rfl⟩⟩
  | refused rate known connected objects =>
    have is := supported.mpr ⟨rate, known⟩
    exact ⟨by simp [refuse, objects], by simp [refuse], fun not => absurd is not,
      fun _ closed => by simp [connected] at closed, fun _ _ _ => ⟨_, rfl⟩, fun _ => ⟨rfl, rfl⟩⟩
  | retuned rate known connected clear =>
    have is := supported.mpr ⟨rate, known⟩
    refine ⟨?_, ?_, ?_, ?_, ?_, ?_⟩
    · exact ⟨fun _ => ⟨is, connected, clear⟩, fun _ => rfl⟩
    · exact fun _ => ⟨rate, Rate.ofNumber?_eq_some known, rfl, rfl, Adapter.events_cons rfl⟩
    · exact fun not => absurd is not
    · exact fun _ closed => by simp [connected] at closed
    · exact fun _ _ objects => by simp [clear] at objects
    · exact fun failed => absurd rfl failed

end

/-! ## The same device again -/

/-- What letting go of the line leaves on record. -/
def closing (station : Station) : List Adapter.Event := if station.connected then [.closed] else []

/-- What becomes of opening the device again. The line, if there is one, is closed first; then the
station has a new one at the initial rate, or none. -/
structure Reopening (station : Station) (adapter : Adapter) (outcome : Outcome Unit) : Prop where
  done_iff : outcome.result = .ok () ↔ adapter.refusesOpen = none
  done : outcome.result = .ok () →
    outcome.station = { station with connected := true, rate := .baud2400 } ∧
    outcome.adapter.isOpen = true ∧ outcome.adapter.rate = some .baud2400 ∧
    outcome.adapter.events =
      adapter.events ++ station.closing ++ [.opened station.device .baud2400]
  failed : ∀ fault, outcome.result = .error fault →
    (∃ cause, adapter.refusesOpen = some cause ∧ fault = .connect station.device cause) ∧
    outcome.station = { station with connected := false, rate := .baud2400 } ∧
    (station.connected = true → outcome.adapter.isOpen = false) ∧
    (station.connected = false → outcome.adapter = adapter) ∧
    outcome.adapter.events = adapter.events ++ station.closing

section

variable (station : Station) (adapter : Adapter)

theorem events_drop : (station.drop adapter).events = adapter.events ++ station.closing := by
  unfold drop closing
  split
  · exact Adapter.events_cons rfl
  · exact (List.append_nil _).symm

theorem reopening : station.Reopening adapter (station.reconnect adapter) := by
  have reopens := station.reopens adapter
  have dropped := station.events_drop adapter
  generalize station.reconnect adapter = outcome at reopens ⊢
  cases reopens with
  | refused cause objects =>
    refine ⟨by simp [refuse, objects], by simp [refuse], ?_⟩
    intro fault told
    refine ⟨⟨cause, objects, (Except.error.inj told).symm⟩, rfl, ?_, ?_, dropped⟩
    · intro connected
      simp only [refuse, drop, if_pos connected]
      rfl
    · intro closed
      simp only [refuse, drop, closed, Bool.false_eq_true, if_false]
  | opened clear =>
    refine ⟨⟨fun _ => clear, fun _ => rfl⟩, ?_, ?_⟩
    · intro _
      refine ⟨rfl, rfl, rfl, ?_⟩
      rw [← dropped]
      exact Adapter.events_cons rfl
    · intro fault told
      exact nomatch told

end

/-! ## Without a line -/

/-- The requests that a line is needed for and that nothing else speaks against. -/
inductive Request.NeedsLine : Request → Prop where
  | setRate {number : Nat} (supported : number ∈ [300, 1200, 2400, 9600]) :
    NeedsLine (.setRate number)
  | send {frame : Frame} {bytes : Octets} (packed : frame.encode = .ok bytes) :
    NeedsLine (.send frame)
  | receive (decoder : Decoder) : NeedsLine (.receive decoder)
  | exchange {frame : Frame} {bytes : Octets} (packed : frame.encode = .ok bytes) :
    NeedsLine (.exchange frame)
  | poll (address : UInt8) : NeedsLine (.poll address)
  | probe (probe : Probe) (address : UInt8) : NeedsLine (.probe probe address)

section

open Session (ask)

variable {station : Station} (closed : station.connected = false) (adapter : Adapter)
include closed

theorem receiveWith_closed (decoder : Decoder) :
    station.receiveWith adapter decoder = station.refuse adapter .notConnected := by
  simp only [receiveWith, closed, Bool.false_eq_true, if_false]

/-- A send without a line fails and leaves everything as it is. -/
theorem send_closed (frame : Frame) :
    ∃ fault, (station.send adapter frame).state = (.error fault, station, adapter) ∧
      ∀ bytes, frame.encode = .ok bytes → fault = .notConnected := by
  cases packed : frame.encode with
  | error fault =>
    rw [send_unpacked station packed]
    exact ⟨_, rfl, fun _ is => nomatch is⟩
  | ok bytes =>
    rw [send_unconnected packed (Bool.eq_false_iff.mp closed)]
    exact ⟨_, rfl, fun _ _ => rfl⟩

/-- So does every request that begins with one. -/
theorem ask_sending {request : Request} {frame : Frame} (begins : request.frame? = some frame) :
    ∃ fault, (ask station adapter request).state = (.error fault, station, adapter) ∧
      ∀ bytes, frame.encode = .ok bytes → fault = .notConnected := by
  obtain ⟨fault, sent, first⟩ := send_closed closed adapter frame
  have made : request.sending? station adapter = some { station, adapter, request, frame } := by
    rw [Request.sending?, begins]
    rfl
  obtain ⟨result, rest⟩ := Prod.mk.inj sent
  have failed := (Sending.leads_ask made).failed result
  exact ⟨fault, failed.trans (congrArg (Prod.mk _) rest), first⟩

theorem ask_packed {request : Request} {frame : Frame} {bytes : Octets}
    (begins : request.frame? = some frame) (packed : frame.encode = .ok bytes) :
    (ask station adapter request).result = .error .notConnected := by
  obtain ⟨fault, state, first⟩ := ask_sending closed adapter begins
  rw [← first bytes packed]
  exact (Prod.mk.inj state).1

/-- **Without a line a station changes nothing, whatever is asked of it,** but for opening the
device again. -/
theorem ask_closed {request : Request} (other : request ≠ .reconnect) :
    (ask station adapter request).station = station ∧
      (ask station adapter request).adapter = adapter := by
  cases begins : request.frame? with
  | some frame =>
    obtain ⟨fault, state, -⟩ := ask_sending closed adapter begins
    exact Prod.mk.inj (Prod.mk.inj state).2
  | none =>
    cases request with
    | rest => exact ⟨rfl, rfl⟩
    | reconnect => exact absurd rfl other
    | disconnect =>
      simp only [ask, Session.reply, disconnect, closed, Bool.false_eq_true, if_false, and_self]
    | setRate number =>
      apply (station.rateChange adapter number).unchanged
      intro done
      have connected := ((station.rateChange adapter number).done_iff.mp done).2.1
      cases closed.symm.trans connected
    | receive decoder =>
      simp only [ask, Session.reply, receiveWith_closed closed]
      exact ⟨rfl, rfl⟩
    | send | exchange | poll | probe => cases begins

theorem ask_needsLine {request : Request} (needs : request.NeedsLine) :
    (ask station adapter request).result = .error .notConnected := by
  cases needs with
  | setRate supported =>
    simp only [ask, Session.reply, (station.rateChange adapter _).unconnected supported closed]
    rfl
  | receive decoder =>
    simp only [ask, Session.reply, receiveWith_closed closed]
    rfl
  | send packed => exact ask_packed closed adapter rfl packed
  | exchange packed => exact ask_packed closed adapter rfl packed
  | poll address => exact ask_packed closed adapter rfl rfl
  | probe probe address => exact ask_packed closed adapter rfl rfl

end

end Station

end MeterBus
