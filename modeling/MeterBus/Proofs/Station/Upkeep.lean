import MeterBus.Session
import MeterBus.Proofs.Line.History
import MeterBus.Proofs.Reception.Loop

/-! # A station and its adapter stay in step

Whatever a station is asked to do and however it ends, the adapter shows afterwards what the station
believes: whether the line is open, as which device and at which rate. There is one lemma for each
operation, with `Tends.andThen` to go from an operation to a sequence, and `Tends.ask` for all
requests of a session.
-/
namespace MeterBus
open Adapter (Shows)
set_option autoImplicit false

/-! ## Receptions -/

namespace Reception

/-- What no read changes, the loop does not change. -/
theorem gather_keeps {σ α : Type} (source : Source σ) (view : σ → α)
    (keeps : ∀ line size, view (source.read line size).2 = view line) (decoder : Decoder) (line : σ)
    (buffer : Octets) (silences : Nat) (past : List Octets) (answer : Progress) :
    view (gather source decoder line buffer silences past answer).line = view line := by
  exact gather_preserves (P := fun after => view after = view line)
    (fun after size same => (keeps after size).trans same) line buffer silences past answer rfl

theorem receive_shows {known : String → Prop} {driven : Option (String × Rate)} {adapter : Adapter}
    (h : Shows known driven adapter) (hooks : Hooks) (decoder : Decoder) :
    Shows known driven (receive hooks decoder adapter).adapter := by
  have kept := gather_keeps Adapter.source
    (fun adapter => (adapter.past, adapter.isOpen, adapter.rate)) (fun _ _ => rfl) decoder adapter
    [] 0 [] (.needMore 1)
  obtain ⟨past, rest⟩ := Prod.mk.inj kept
  obtain ⟨isOpen, rate⟩ := Prod.mk.inj rest
  exact h.of_eq past isOpen rate

end Reception

namespace Station

/-! ## Being in step -/

/-- What the station believes the line to be driven as. -/
def line (station : Station) : Option (String × Rate) :=
  if station.connected then some (station.device, station.rate) else none

/-- The adapter shows what the station believes, and the device is a known one. -/
structure Tends (known : String → Prop) (station : Station) (adapter : Adapter) : Prop where
  shows : Shows known station.line adapter
  named : known station.device

/-- Station and adapter of the outcome are in step. -/
def Outcome.Tended {α : Type} (known : String → Prop) (outcome : Outcome α) : Prop :=
  Tends known outcome.station outcome.adapter

theorem line_connected {station : Station} (connected : station.connected = true) :
    station.line = some (station.device, station.rate) := if_pos connected

theorem line_disconnected {station : Station} (disconnected : ¬ station.connected = true) :
    station.line = none := if_neg disconnected

theorem Outcome.Tended.andThen {α β : Type} {known : String → Prop} {first : Outcome α}
    (h : first.Tended known) {next : α → Station → Adapter → Outcome β}
    (onwards : ∀ value station adapter, Tends known station adapter →
      (next value station adapter).Tended known) : (first.andThen next).Tended known := by
  unfold Outcome.andThen
  cases first.result with
  | error fault => exact h
  | ok value => exact onwards value first.station first.adapter h

/-! ## Operations -/

section Operations

variable {known : String → Prop} {station : Station} {adapter : Adapter}
  (h : Tends known station adapter)
include h

theorem Tends.drop : Shows known none (station.drop adapter) := by
  have shows := h.shows
  unfold Station.drop
  by_cases connected : station.connected = true
  · rw [line_connected connected] at shows
    rw [if_pos connected]
    exact shows.close
  · rw [line_disconnected connected] at shows
    rw [if_neg connected]
    exact shows

theorem Tends.reconnect : (station.reconnect adapter).Tended known := by
  have opened := h.drop.openAt h.named
  unfold Station.reconnect
  generalize (station.drop adapter).openAt station.device Rate.initial = answer at opened ⊢
  match answer with
  | (.error cause, after) => exact ⟨opened, h.named⟩
  | (.ok (), after) => exact ⟨opened, h.named⟩

theorem Tends.disconnect : (station.disconnect adapter).Tended known := by
  have closed := h.drop
  unfold Station.drop at closed
  unfold Station.disconnect
  by_cases connected : station.connected = true
  · rw [if_pos connected] at closed ⊢
    exact ⟨closed, h.named⟩
  · rw [if_neg connected]
    exact h

theorem Tends.setRate (number : Nat) : (station.setRate adapter number).Tended known := by
  unfold Station.setRate
  cases Rate.ofNumber? number with
  | none => exact h
  | some rate =>
    by_cases connected : station.connected = true
    · have shows := h.shows
      rw [line_connected connected] at shows
      have retuned := shows.retune rate
      simp only [if_pos connected]
      generalize adapter.retune rate = answer at retuned ⊢
      match answer with
      | (.error cause, after) =>
        rw [← line_connected connected] at retuned
        exact ⟨retuned, h.named⟩
      | (.ok (), after) =>
        refine ⟨?_, h.named⟩
        rw [line_connected (show ({ station with rate } : Station).connected = true from connected)]
        exact retuned
    · simp only [if_neg connected]
      exact h

theorem Tends.send (frame : Frame) : (station.send adapter frame).Tended known := by
  unfold Station.send
  cases frame.encode with
  | error fault => exact h
  | ok bytes =>
    by_cases connected : station.connected = true
    · have shows := h.shows
      rw [line_connected connected] at shows
      have wrote := shows.write bytes
      simp only [if_pos connected]
      generalize adapter.write bytes = answer at wrote ⊢
      rw [← line_connected connected] at wrote
      match answer with
      | (.error cause, after) => exact ⟨wrote, h.named⟩
      | (.ok written, after) =>
        by_cases all : written = bytes.length
        · simp only [if_pos all]
          exact ⟨wrote.2, h.named⟩
        · simp only [if_neg all]
          exact ⟨wrote.1, h.named⟩
    · simp only [if_neg connected]
      exact h

theorem Tends.receiveWith (decoder : Decoder) :
    (station.receiveWith adapter decoder).Tended known := by
  unfold Station.receiveWith
  by_cases connected : station.connected = true
  · simp only [if_pos connected]
    exact ⟨Reception.receive_shows h.shows station.hooks decoder, h.named⟩
  · simp only [if_neg connected]
    exact h

theorem Tends.exchange (request : Frame) : (station.exchange adapter request).Tended known := by
  apply (h.send request).andThen
  intro _ station adapter h
  exact h.receiveWith Decoder.link

theorem Tends.listen (probe : Probe) (address : UInt8) (left : Nat) :
    (probe.listen address left station adapter).Tended known := by
  induction left generalizing station adapter with
  | zero => exact h
  | succ left ih =>
    have heard : (station.receive adapter).Tended known := h.receiveWith Decoder.link
    simp only [Probe.listen]
    split
    · exact heard
    · exact ih heard

theorem Tends.probe (probe : Probe) (address : UInt8) :
    (probe.run station adapter address).Tended known := by
  have sent := h.send (Frame.wakeRequest address)
  have closed := sent.andThen fun _ _ _ h => h.disconnect
  have opened := closed.andThen fun _ _ _ h => h.reconnect
  have retuned := opened.andThen fun _ _ _ h => h.setRate probe.target.number
  exact retuned.andThen fun _ _ _ h => h.listen probe address probe.attempts

/-- **Whatever is asked of a station, it and its adapter are in step afterwards.** -/
theorem Tends.ask (request : Request) : (Session.ask station adapter request).Tended known := by
  cases request with
  | rest => exact h
  | reconnect => exact h.reconnect
  | disconnect => exact h.disconnect
  | setRate number => exact h.setRate number
  | send frame => exact h.send frame
  | receive decoder => exact h.receiveWith decoder
  | exchange frame => exact h.exchange frame
  | poll address => exact h.exchange (Frame.dataRequest address)
  | probe probe address => exact h.probe probe address

end Operations

/-! ## A new station -/

theorem connect_tended {known : String → Prop} {adapter : Adapter} (idle : Shows known none adapter)
    {device : String} (named : known device) (hooks : Hooks) :
    (connect device hooks adapter).Tended known := by
  have h : Tends known { device, hooks } adapter := ⟨idle, named⟩
  exact h.reconnect

/-- A station that could not open its device drives nothing. -/
theorem line_of_refused {station : Station} {adapter : Adapter} {fault : Fault}
    (refused : (station.reconnect adapter).result = .error fault) :
    (station.reconnect adapter).station.line = none := by
  unfold reconnect at refused ⊢
  generalize (station.drop adapter).openAt station.device Rate.initial = answer at refused ⊢
  match answer with
  | (.error cause, after) => rfl
  | (.ok (), after) => exact nomatch refused

end Station

end MeterBus
