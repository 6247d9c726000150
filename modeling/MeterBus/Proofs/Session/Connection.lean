import MeterBus.Proofs.Session.SoleUser
import MeterBus.Proofs.Station.Upkeep

/-! # Station, adapter and record agree in every reachable state

An adapter that only one station uses is open exactly while that station is connected, runs at the
rate the station believes in, and has a record that splits into sittings, of which only the last
can lack its closing. This holds after every sequence of cues, requests, connections and drops, with
whatever refusals on the way and whatever else happens in the session.
-/
namespace MeterBus
open Adapter (Begun Shows Sitting)
set_option autoImplicit false

namespace Session

/-- The law of a station and its adapter that are in step; without a station, nothing is driven. -/
def InStep (known : String → Prop) : Option Station → Adapter → Prop
  | none, adapter => Shows known none adapter
  | some station, adapter => station.Tends known adapter

theorem inStep_lasting (known : String → Prop) :
    Lasting (fun device _ => known device) (InStep known) where
  fresh := Adapter.shows_fresh
  cue := by
    intro user adapter cue law
    cases user with
    | none => exact Shows.cue law cue
    | some station => exact ⟨law.shows.cue cue, law.named⟩
  connect := by
    intro device hooks adapter named idle
    have tended := Station.connect_tended idle named hooks
    split
    case h_1 => exact tended
    case h_2 fault refused =>
      have shows := tended.shows
      rw [Station.connect, Station.line_of_refused refused] at shows
      exact shows
  ask := by
    intro station adapter request law
    exact Station.Tends.ask law request
  drop := by
    intro station adapter law
    exact Station.Tends.drop law

/-- What station and adapter owe each other: the flag, as many closings as openings but for the one
of an open line, the rate, and a record in sittings. -/
structure Accounted (known : String → Prop) (user : Option Station) (adapter : Adapter) : Prop where
  isOpen : adapter.isOpen = true ↔ ∃ station, user = some station ∧ station.connected = true
  balance : adapter.openings = adapter.closings + if user.any Station.connected then 1 else 0
  rate : ∀ station, user = some station → station.connected = true →
    adapter.rate = some station.rate ∧ adapter.lastRate = some station.rate
  sittings : ∃ (finished : List (List Adapter.Event)) (last : List Adapter.Event),
    adapter.events = finished.flatten ++ last ∧
      (∀ sitting ∈ finished, ∃ device, known device ∧ Sitting device sitting) ∧
      (∀ station, user = some station → station.connected = true → Begun station.device last) ∧
      (user.any Station.connected = false → last = [])

section

variable {known : String → Prop} {adapter : Adapter}

theorem Accounted.idle {user : Option Station} (shows : Shows known none adapter)
    (idle : ∀ station, user = some station → ¬ station.connected = true) :
    Accounted known user adapter := by
  have unused : user.any Station.connected = false := by
    cases user with
    | none => rfl
    | some station => exact Bool.eq_false_iff.mpr (idle station rfl)
  obtain ⟨finished, last, split, sat, nothing⟩ := shows.history.sittings
  refine ⟨?_, ?_, ?_, finished, last, split, sat, ?_, fun _ => nothing⟩
  · rw [shows.isOpen]
    constructor
    · intro absurdity
      exact nomatch absurdity
    · rintro ⟨station, is, connected⟩
      exact absurd connected (idle station is)
  · rw [Adapter.openings_eq, Adapter.closings_eq, shows.history.balance, unused]
    rfl
  · intro station is connected
    exact absurd connected (idle station is)
  · intro station is connected
    exact absurd connected (idle station is)

theorem Accounted.driven {station : Station} (connected : station.connected = true)
    (shows : Shows known (some (station.device, station.rate)) adapter) :
    Accounted known (some station) adapter := by
  have used : (some station).any Station.connected = true := connected
  obtain ⟨finished, last, split, sat, named, begun⟩ := shows.history.sittings
  refine ⟨?_, ?_, ?_, finished, last, split, sat, ?_, ?_⟩
  · rw [shows.isOpen]
    exact ⟨fun _ => ⟨station, rfl, connected⟩, fun _ => rfl⟩
  · rw [Adapter.openings_eq, Adapter.closings_eq, shows.history.balance, used]
    rfl
  · rintro _ ⟨⟩ _
    exact ⟨shows.rate station.device station.rate rfl,
      (Adapter.lastRate_eq adapter).trans shows.history.rate⟩
  · rintro _ ⟨⟩ _
    exact begun
  · intro unused
    exact nomatch used.symm.trans unused

theorem InStep.accounted {user : Option Station} (h : InStep known user adapter) :
    Accounted known user adapter := by
  cases user with
  | none => exact .idle h (by simp)
  | some station =>
    have shows := h.shows
    by_cases connected : station.connected = true
    · rw [Station.line_connected connected] at shows
      exact .driven connected shows
    · rw [Station.line_disconnected connected] at shows
      refine .idle shows ?_
      rintro _ ⟨⟩
      exact connected

end

/-- **Connection, rate and record agree in every reachable state.** On an adapter that is left to
the station of one name, whatever is cued and asked, the flag, the balance of openings and closings,
the rate and the record are those of that station; and every sitting is at a device it was connected
to. -/
theorem connection_accounted {adapters index : Nat} (room : index < adapters) {name : String}
    {steps : List Step} (sole : ∀ step ∈ steps, step.Sole index name) :
    Accounted (fun device => ∃ hooks, .connect index name device hooks ∈ steps)
      (((fresh adapters).run steps).2.user index name)
      (((fresh adapters).run steps).2.adapter index) := by
  apply InStep.accounted
  apply (inStep_lasting _).run room sole
  intro device hooks member
  exact ⟨hooks, member⟩

/-- A probe whose new rate is refused, a failed reopening, and a new station at another device. -/
theorem connection_accounted_refusals :
    let steps : List Step := [.connect 0 "meter" "/dev/ttyUSB0" {}, .cue 0 (.refuseRate true),
      .request "meter" (.probe {} 5), .cue 0 (.refuseOpen true), .request "meter" .reconnect,
      .cue 0 (.refuseOpen false), .connect 0 "meter" "/dev/ttyUSB1" {}, .cue 0 (.refuseRate false),
      .request "meter" (.setRate 300), .request "meter" (.send Frame.ack)]
    let session := ((fresh 2).run steps).2
    (∀ step ∈ steps, step.Sole 0 "meter") ∧
      (session.adapter 0).events =
        [.opened "/dev/ttyUSB0" .baud2400, .wrote [0x10, 0x7B, 5, 0x80, 0x16], .drained, .closed,
          .opened "/dev/ttyUSB0" .baud2400, .closed, .opened "/dev/ttyUSB1" .baud2400,
          .retuned .baud300, .wrote [0xE5], .drained] ∧
      Accounted (fun device => ∃ hooks, .connect 0 "meter" device hooks ∈ steps)
        (session.user 0 "meter") (session.adapter 0) := by
  intro steps session
  have sole : ∀ step ∈ steps, step.Sole 0 "meter" := by
    simp [steps, Step.Sole]
  exact ⟨sole, rfl, connection_accounted (by decide) sole⟩

end Session

end MeterBus
