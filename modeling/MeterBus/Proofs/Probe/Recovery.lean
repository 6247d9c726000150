import MeterBus.Proofs.Probe.Paths
import MeterBus.Proofs.Reception.Recovery

/-! # A probe on a bad line

Every spoiled segment costs a probe one of its attempts, whatever it is. A frame that comes while
there are attempts left is found behind any number of them, and a probe that runs out of attempts
has taken exactly as many segments off the line.

* `listen_spent`: listening goes on behind the attempts that failed.
* `run_recovers`: the whole probe.
-/
namespace MeterBus
set_option autoImplicit false

namespace Probe

variable (probe : Probe) (address : UInt8)

/-! ## Behind failed attempts -/

section Listening

variable {station : Station} (connected : station.connected = true) {adapter : Adapter}
include connected

theorem listen_spent {faults : List Fault}
    (results : (station.receiveTimes adapter faults.length).results = faults.map .error)
    (left : Nat) :
    (probe.listen address (faults.length + left) station adapter).state =
      (probe.listen address left station
        (station.receiveTimes adapter faults.length).adapter).state := by
  induction faults generalizing adapter with
  | nil => rw [List.length_nil, Nat.zero_add, Station.receiveTimes]
  | cons fault faults ih =>
    rw [List.length_cons] at results ⊢
    rw [Station.results_succ connected] at results
    obtain ⟨missed, rest⟩ := List.cons.inj results
    have attempts : faults.length + 1 + left = faults.length + left + 1 := by omega
    rw [attempts, listen_missed probe address missed, Station.receive_station connected, ih rest,
      Station.adapter_succ connected]

variable {segments : List (List Item × Fault)}
  (spoiled : ∀ segment ∈ segments, Spoils segment.1 segment.2) {tail : List Item}
  (queue : adapter.items = segments.flatMap Prod.fst ++ tail)
include spoiled queue

theorem listen_segments (left : Nat) :
    (probe.listen address (segments.length + left) station adapter).state =
      (probe.listen address left station
        (station.receiveTimes adapter segments.length).adapter).state := by
  have results := (Station.receive_segments connected spoiled queue).1
  have count : (segments.map Prod.snd).length = segments.length := List.length_map Prod.snd
  have spent := @listen_spent probe address station connected adapter (segments.map Prod.snd)
  rw [count, List.map_map] at spent
  exact spent results left

/-- Attempts that run out take as many segments off the line and no more. -/
theorem listen_exhausted {left : Nat} (few : left ≤ segments.length) :
    (probe.listen address left station adapter).state =
        (.error (.noResponse address probe.attempts), station,
          (station.receiveTimes adapter left).adapter) ∧
      (station.receiveTimes adapter left).results =
        (segments.take left).map (fun segment => .error segment.2) ∧
      (station.receiveTimes adapter left).adapter.items =
        (segments.drop left).flatMap Prod.fst ++ tail := by
  have first : ∀ segment ∈ segments.take left, Spoils segment.1 segment.2 :=
    fun segment among => spoiled segment (List.mem_of_mem_take among)
  have parts : adapter.items = (segments.take left).flatMap Prod.fst ++
      ((segments.drop left).flatMap Prod.fst ++ tail) := by
    rw [queue, ← List.append_assoc, ← List.flatMap_append, List.take_append_drop]
  have count : (segments.take left).length = left := List.length_take_of_le few
  have received := Station.receive_segments connected first parts
  have spent := listen_segments probe address connected first parts 0
  rw [count] at received spent
  exact ⟨spent, received⟩

end Listening

section Answer

variable {station : Station} (connected : station.connected = true) {adapter : Adapter}
  {segments : List (List Item × Fault)}
  (spoiled : ∀ segment ∈ segments, Spoils segment.1 segment.2) {frame : Frame} {bytes : Octets}
  {items : List Item} (packed : frame.encode = .ok bytes) (delivered : Delivers bytes items)
  {tail : List Item} (queue : adapter.items = segments.flatMap Prod.fst ++ (items ++ tail))
include connected spoiled packed delivered queue

/-- A frame that comes while there are attempts left is found. -/
theorem listen_recovers {left : Nat} (enough : segments.length < left) :
    (probe.listen address left station adapter).state =
        (.ok frame.canonical, station,
          (station.receiveTimes adapter (segments.length + 1)).adapter) ∧
      (station.receiveTimes adapter (segments.length + 1)).results =
        segments.map (fun segment => .error segment.2) ++ [.ok frame.canonical] ∧
      (station.receiveTimes adapter (segments.length + 1)).adapter.items = tail := by
  obtain ⟨results, behind⟩ := Station.receive_segments connected spoiled queue
  obtain ⟨heard, last, -⟩ :=
    Station.receive_delivered connected (Frame.encode_ok packed) delivered behind
  obtain ⟨more, rfl⟩ := Nat.exists_eq_add_of_lt enough
  have spent := listen_segments probe address connected spoiled queue (more + 1)
  rw [listen_answered probe address heard, Station.receive_station connected] at spent
  rw [Station.results_snoc connected, Station.adapter_snoc connected, results, heard]
  exact ⟨spent, rfl, last⟩

end Answer

/-! ## The whole probe -/

theorem prepared_of_ok {station : Station} {adapter : Adapter}
    (ready : (probe.prepare station adapter address).result = .ok ()) :
    (probe.prepare station adapter address).station.connected = true ∧
      (probe.prepare station adapter address).adapter.items = adapter.items := by
  have prepares := probe.prepares station adapter address
  unfold Station.Outcome.state at prepares
  rw [ready] at prepares
  generalize (probe.prepare station adapter address).station = after at prepares ⊢
  generalize (probe.prepare station adapter address).adapter = line at prepares ⊢
  cases prepares with
  | ready wakes opens clear => exact ⟨rfl, rfl⟩

/-- **A probe finds the frame behind any spoiled segments it has the attempts for, and each of them
costs it exactly one.** -/
theorem run_recovers (station : Station) (adapter : Adapter)
    (ready : (probe.prepare station adapter address).result = .ok ())
    {segments : List (List Item × Fault)}
    (spoiled : ∀ segment ∈ segments, Spoils segment.1 segment.2) {frame : Frame} {bytes : Octets}
    {items : List Item} (packed : frame.encode = .ok bytes) (delivered : Delivers bytes items)
    {tail : List Item} (queue : adapter.items = segments.flatMap Prod.fst ++ (items ++ tail)) :
    let fresh := probe.prepare station adapter address
    let outcome := probe.run station adapter address
    Frame.decode bytes = .ok frame.canonical ∧
      (segments.length < probe.attempts →
        let heard := fresh.station.receiveTimes fresh.adapter (segments.length + 1)
        outcome.result = .ok frame.canonical ∧ outcome.adapter = heard.adapter ∧
          heard.results = segments.map (fun segment => .error segment.2) ++ [.ok frame.canonical] ∧
          outcome.adapter.items = tail) ∧
      (probe.attempts ≤ segments.length →
        let heard := fresh.station.receiveTimes fresh.adapter probe.attempts
        outcome.result = .error (.noResponse address probe.attempts) ∧
          outcome.adapter = heard.adapter ∧
          heard.results = (segments.take probe.attempts).map (fun segment => .error segment.2) ∧
          outcome.adapter.items =
            (segments.drop probe.attempts).flatMap Prod.fst ++ (items ++ tail)) := by
  intro fresh outcome
  obtain ⟨connected, same⟩ := prepared_of_ok probe address ready
  have state : fresh.state = (.ok (), fresh.station, fresh.adapter) := by
    rw [Station.Outcome.state, ready]
  have run := run_ready probe station adapter address state
  rw [← same] at queue
  refine ⟨(Frame.encode_ok packed).decode, ?_, ?_⟩
  · intro enough heard
    obtain ⟨whole, results, left⟩ :=
      listen_recovers probe address connected spoiled packed delivered queue enough
    obtain ⟨result, rest⟩ := Prod.mk.inj (run.trans whole)
    have after := (Prod.mk.inj rest).2
    exact ⟨result, after, results, (congrArg Adapter.items after).trans left⟩
  · intro few heard
    obtain ⟨whole, results, left⟩ := listen_exhausted probe address connected spoiled queue few
    obtain ⟨result, rest⟩ := Prod.mk.inj (run.trans whole)
    have after := (Prod.mk.inj rest).2
    exact ⟨result, after, results, (congrArg Adapter.items after).trans left⟩

/-- A stray byte, a torn, a broken and a corrupt frame before a good one, all of them cut into chunks
elsewhere. Five attempts are enough; two leave the last two segments on the line. -/
theorem run_recovers_fifth :
    let station : Station := { device := "/dev/ttyUSB0", connected := true }
    let adapter : Adapter := { incoming := [.silence, .data [0x42, 0x10], .silence, .data [0x5B],
      .silence, .data [], .data [0x68, 3], .fault .timedOut, .data [0x10, 0x40, 1], .silence,
      .data [0x42, 0x16, 0x10, 0x40, 1, 0x41, 0x16, 0x99]] }
    let patient : Probe := { attempts := 5 }
    let hasty : Probe := { attempts := 2 }
    (patient.prepare station adapter 1).result = .ok () ∧
      (patient.run station adapter 1).result = .ok (Frame.linkReset 1) ∧
      (patient.run station adapter 1).adapter.items = [.octet 0x99] ∧
      (hasty.run station adapter 1).result = .error (.noResponse 1 2) ∧
      (hasty.run station adapter 1).adapter.items =
        [.octet 0x68, .octet 3, .fault .timedOut, .octet 0x10, .octet 0x40, .octet 1, .pause,
          .octet 0x42, .octet 0x16, .octet 0x10, .octet 0x40, .octet 1, .octet 0x41, .octet 0x16,
          .octet 0x99] := by
  have stray : Spoils [.pause, .octet 0x42] _ :=
    .stray (by decide) ⟨1, [], 0x42, _, rfl, by decide, .pause .done, rfl⟩
  have torn : Spoils ([.octet 0x10, .pause, .octet 0x5B, .pause] ++ [.pause]) (.incomplete 2) :=
    @Spoils.torn (Frame.dataRequest 1) [0x10, 0x5B] [1, 0x5C, 0x16] _ rfl (by decide)
      (.octet _ (.pause (.octet _ (.pause .done))))
  have broken : Spoils ([.octet 0x68, .octet 3] ++ [.fault .timedOut]) _ :=
    @Spoils.broken (Frame.long 8 1 0x72 []) [0x68, 3] [3, 0x68, 8, 1, 0x72, 0x7B, 0x16] 0 _ rfl
      (by decide) (by decide) (.octet _ (.octet _ .done)) .timedOut
  have corrupt : Spoils [.octet 0x10, .octet 0x40, .octet 1, .pause, .octet 0x42, .octet 0x16] _ :=
    @Spoils.corrupt (Frame.linkReset 1) [0x10, 0x40, 1] [0x16] 0x41 0x42 _ rfl (by decide)
      (by decide) ⟨1, [0x10, 0x40, 1, 0x42], 0x16, _, rfl, by decide,
        .octet _ (.octet _ (.octet _ (.pause (.octet _ .done)))), rfl⟩
  have good : Delivers [0x10, 0x40, 1, 0x41, 0x16]
      [.octet 0x10, .octet 0x40, .octet 1, .octet 0x41, .octet 0x16] :=
    ⟨0, [0x10, 0x40, 1, 0x41], 0x16, _, rfl, by decide,
      .octet _ (.octet _ (.octet _ (.octet _ .done))), rfl⟩
  have spoiled : ∀ segment ∈ [(_, _), (_, _), (_, _), (_, _)], Spoils segment.1 segment.2 :=
    List.forall_mem_cons.mpr ⟨stray, List.forall_mem_cons.mpr ⟨torn,
      List.forall_mem_cons.mpr ⟨broken, List.forall_mem_cons.mpr ⟨corrupt, nofun⟩⟩⟩⟩
  intro station adapter patient hasty
  have answer := run_recovers patient 1 station adapter rfl spoiled
    (show (Frame.linkReset 1).encode = .ok _ from rfl) good (show adapter.items = _ from rfl)
  have silence := run_recovers hasty 1 station adapter rfl spoiled
    (show (Frame.linkReset 1).encode = .ok _ from rfl) good (show adapter.items = _ from rfl)
  obtain ⟨result, -, -, left⟩ := answer.2.1 (by decide)
  obtain ⟨none, -, -, rest⟩ := silence.2.2 (by decide)
  exact ⟨rfl, result, left, none, rest⟩

end Probe

end MeterBus
