import MeterBus.Session
import MeterBus.Proofs.Reception.Verdict
import MeterBus.Proofs.Station.Operations

/-! # A station without its observers

Taking the observers away from a station changes nothing of what it does: every operation ends with
the same result, on the same adapter, and leaves the same station but for the observers. Only the
notes differ. An operation with this property is `Inert`, and so is a sequence of such operations.
-/
namespace MeterBus
set_option autoImplicit false

namespace Reception

/-- Observers have no part in what a reception does. -/
theorem receive_hooks (hooks hooks' : Hooks) (decoder : Decoder) (adapter : Adapter) :
    (receive hooks decoder adapter).result = (receive hooks' decoder adapter).result ∧
      (receive hooks decoder adapter).adapter = (receive hooks' decoder adapter).adapter := by
  rw [receive_eq_receiveFrom, receiveFrom_result, receiveFrom_result]
  exact ⟨rfl, rfl⟩

end Reception

namespace Station

/-! ## Inert operations -/

def unobserved (station : Station) : Station := { station with hooks := {} }

/-- The outcome without what it leaves to look at. -/
def Outcome.unobserved {α : Type} (outcome : Outcome α) : Outcome α :=
  { outcome with station := outcome.station.unobserved, notes := [] }

/-- The operation does the same for a station without observers. -/
def Inert {α : Type} (operation : Station → Adapter → Outcome α) : Prop :=
  ∀ station adapter,
    (operation station.unobserved adapter).unobserved = (operation station adapter).unobserved

section Sequences

variable {α β : Type}

theorem Inert.eq_of {operation : Station → Adapter → Outcome α} (h : Inert operation)
    {station station' : Station} (same : station.unobserved = station'.unobserved)
    (adapter : Adapter) :
    (operation station adapter).unobserved = (operation station' adapter).unobserved := by
  rw [← h station adapter, same, h station' adapter]

theorem parts_of_unobserved {outcome outcome' : Outcome α}
    (same : outcome.unobserved = outcome'.unobserved) :
    outcome.result = outcome'.result ∧
      outcome.station.unobserved = outcome'.station.unobserved ∧
      outcome.adapter = outcome'.adapter :=
  ⟨(congrArg Outcome.result same :), (congrArg Outcome.station same :),
    (congrArg Outcome.adapter same :)⟩

theorem unobserved_andThen {first first' : Outcome α} (same : first.unobserved = first'.unobserved)
    {next : α → Station → Adapter → Outcome β} (onwards : ∀ value, Inert (next value)) :
    (first.andThen next).unobserved = (first'.andThen next).unobserved := by
  obtain ⟨results, stations, adapters⟩ := parts_of_unobserved same
  cases result : first'.result with
  | error fault =>
    rw [andThen_error (results.trans result), andThen_error result]
    simp only [Outcome.unobserved, stations, adapters]
  | ok value =>
    have later := (onwards value).eq_of stations first'.adapter
    rw [andThen_ok (results.trans result), andThen_ok result, adapters]
    exact later

theorem Inert.andThen {operation : Station → Adapter → Outcome α} (h : Inert operation)
    {next : α → Station → Adapter → Outcome β} (onwards : ∀ value, Inert (next value)) :
    Inert fun station adapter => (operation station adapter).andThen next :=
  fun station adapter => unobserved_andThen (h station adapter) onwards

end Sequences

/-! ## The operations of a station -/

theorem inert_reconnect : Inert reconnect := by
  intro station adapter
  have same : (station.unobserved.drop adapter).openAt station.unobserved.device Rate.initial =
    (station.drop adapter).openAt station.device Rate.initial := rfl
  unfold reconnect
  rw [same]
  generalize (station.drop adapter).openAt station.device Rate.initial = answer
  match answer with
  | (.error cause, after) => rfl
  | (.ok (), after) => rfl

theorem inert_disconnect : Inert disconnect := by
  rintro ⟨device, connected, rate, hooks⟩ adapter
  cases connected <;> rfl

theorem inert_setRate (number : Nat) :
    Inert fun station adapter => station.setRate adapter number := by
  rintro ⟨device, connected, rate, hooks⟩ adapter
  simp only [setRate, unobserved]
  cases Rate.ofNumber? number with
  | none => rfl
  | some rate =>
    cases connected with
    | false => rfl
    | true =>
      simp only [if_true]
      generalize adapter.retune rate = answer
      match answer with
      | (.error cause, after) => rfl
      | (.ok (), after) => rfl

theorem inert_send (frame : Frame) : Inert fun station adapter => station.send adapter frame := by
  rintro ⟨device, connected, rate, hooks⟩ adapter
  simp only [send, unobserved]
  cases frame.encode with
  | error fault => rfl
  | ok bytes =>
    cases connected with
    | false => rfl
    | true =>
      simp only [if_true]
      generalize adapter.write bytes = answer
      match answer with
      | (.error cause, after) => rfl
      | (.ok written, after) =>
        by_cases all : written = bytes.length
        · simp only [if_pos all]
          rfl
        · simp only [if_neg all]
          rfl

theorem inert_receiveWith (decoder : Decoder) :
    Inert fun station adapter => station.receiveWith adapter decoder := by
  rintro ⟨device, connected, rate, hooks⟩ adapter
  cases connected with
  | false => rfl
  | true =>
    obtain ⟨result, after⟩ := Reception.receive_hooks {} hooks decoder adapter
    simp only [receiveWith, unobserved, if_true, Outcome.unobserved, result, after]

theorem inert_exchange (request : Frame) :
    Inert fun station adapter => station.exchange adapter request :=
  (inert_send request).andThen fun _ => inert_receiveWith Decoder.link

theorem inert_listen (probe : Probe) (address : UInt8) (left : Nat) :
    Inert (probe.listen address left) := by
  induction left with
  | zero =>
    intro station adapter
    rfl
  | succ left ih =>
    intro station adapter
    obtain ⟨results, stations, adapters⟩ :=
      parts_of_unobserved (inert_receiveWith Decoder.link station adapter)
    simp only [Probe.listen, receive, results, adapters]
    cases (station.receiveWith adapter Decoder.link).result with
    | ok frame => simp only [Outcome.unobserved, stations]
    | error fault => exact ih.eq_of stations _

theorem inert_run (probe : Probe) (address : UInt8) :
    Inert fun station adapter => probe.run station adapter address := by
  have sent := inert_send (Frame.wakeRequest address)
  have closed := sent.andThen fun _ => inert_disconnect
  have opened := closed.andThen fun _ => inert_reconnect
  have retuned := opened.andThen fun _ => inert_setRate probe.target.number
  exact retuned.andThen fun _ => inert_listen probe address probe.attempts

/-! ## Requests -/

open Session (ask reply Reply)

theorem inert_reply {α : Type} {operation : Station → Adapter → Outcome α} (h : Inert operation)
    (value : α → Reply) : Inert fun station adapter => reply (operation station adapter) value := by
  intro station adapter
  exact congrArg (fun outcome => reply outcome value) (h station adapter)

/-- **No request asks for the observers.** -/
theorem inert_ask (request : Request) :
    Inert fun station adapter => ask station adapter request := by
  cases request with
  | rest => exact fun _ _ => rfl
  | reconnect => exact inert_reply inert_reconnect _
  | disconnect => exact inert_reply inert_disconnect _
  | setRate number => exact inert_reply (inert_setRate number) _
  | send frame => exact inert_reply (inert_send frame) _
  | receive decoder => exact inert_reply (inert_receiveWith decoder) _
  | exchange frame => exact inert_reply (inert_exchange frame) _
  | poll address => exact inert_reply (inert_exchange (Frame.dataRequest address)) _
  | probe probe address => exact inert_reply (inert_run probe address) _

end Station

end MeterBus
