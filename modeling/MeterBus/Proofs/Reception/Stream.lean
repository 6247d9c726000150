import MeterBus.Proofs.Reception.Pieces
import MeterBus.Proofs.Reception.Sound

/-! # A stream of frames

Frames that come one behind the other are received one by one, whatever chunks they come in and
wherever the line pauses, as long as no reception meets a third pause. Nothing behind the last
frame is touched.

* `Woven`: bytes with a number of pauses anywhere among them.
* `Delivers`: a woven frame that ends with its last byte.
* `Station.receiveTimes`: receptions in a row.
-/
namespace MeterBus
open MeterBus.Frame (OnWire)
set_option autoImplicit false

/-- `Woven pauses bytes items`: the items are the bytes in order, with so many pauses among them. -/
inductive Woven : Nat → Octets → List Item → Prop where
  | done : Woven 0 [] []
  | octet {pauses : Nat} {bytes : Octets} {items : List Item} (byte : UInt8)
    (tail : Woven pauses bytes items) : Woven pauses (byte :: bytes) (.octet byte :: items)
  | pause {pauses : Nat} {bytes : Octets} {items : List Item} (tail : Woven pauses bytes items) :
    Woven (pauses + 1) bytes (.pause :: items)

/-- The items are the bytes, with at most two pauses before the last one. -/
def Delivers (bytes : Octets) (items : List Item) : Prop :=
  ∃ pauses front last woven, bytes = front ++ [last] ∧ pauses ≤ 2 ∧ Woven pauses front woven ∧
    items = woven ++ [.octet last]

/-- The items are the wire forms of the frames one behind the other, each delivered in its turn. -/
inductive Carries : List Frame → List Octets → List Item → Prop where
  | nil : Carries [] [] []
  | cons {frame : Frame} {bytes : Octets} {items : List Item} {frames : List Frame}
    {wires : List Octets} {more : List Item} (packed : frame.encode = .ok bytes)
    (delivered : Delivers bytes items) (rest : Carries frames wires more) :
    Carries (frame :: frames) (bytes :: wires) (items ++ more)

namespace Reception

/-! ## Rounds of the link layer -/

/-- A buffer that wants more has room for it. -/
theorem room_of_needMore {buffer : Octets} {n : Nat} (h : Progress.ofOctets buffer = .needMore n) :
    ∃ missing, Progress.ofOctets buffer = .needMore (missing + 1) ∧
      ¬ Link.capacity - buffer.length < missing + 1 := by
  obtain ⟨positive, room⟩ := Progress.needMore_bounds h
  obtain ⟨missing, rfl⟩ := Nat.exists_eq_add_of_le' positive
  refine ⟨missing, h, ?_⟩
  rw [Link.capacity]
  omega

section Rounds

variable {buffer : Octets} {n : Nat} (wanting : Progress.ofOctets buffer = .needMore n)
  (rest : List Item) (silences : Nat) (past : List Octets)
include wanting

theorem link_octet (byte : UInt8) :
    (gather Item.source Decoder.link (.octet byte :: rest) buffer silences past
        (Progress.ofOctets buffer)).seen id =
      (gather Item.source Decoder.link rest (buffer ++ [byte]) silences
        ((buffer ++ [byte]) :: past) (Progress.ofOctets (buffer ++ [byte]))).seen id := by
  obtain ⟨missing, answer, fits⟩ := room_of_needMore wanting
  rw [answer]
  exact gather_bytes Item.source Decoder.link buffer silences past id fits
    (Item.source_octet byte rest (Nat.succ_pos missing))

theorem link_pause (more : silences + 1 < Link.silenceLimit) :
    (gather Item.source Decoder.link (.pause :: rest) buffer silences past
        (Progress.ofOctets buffer)).seen id =
      (gather Item.source Decoder.link rest buffer (silences + 1) (buffer :: past)
        (Progress.ofOctets buffer)).seen id := by
  obtain ⟨missing, answer, fits⟩ := room_of_needMore wanting
  have round := gather_pause Item.source Decoder.link buffer silences past id fits
    ((Reads.pause rest).source_pause (missing + 1)) more
  rw [answer]
  rw [round, ← answer]
  rfl

end Rounds

/-! ## One frame -/

/-- Every beginning of the bytes, all of them included, leaves the buffer wanting more. -/
def Wanting (buffer bytes : Octets) : Prop :=
  ∀ front back, bytes = front ++ back → ∃ n, Progress.ofOctets (buffer ++ front) = .needMore n

theorem Wanting.buffer {buffer bytes : Octets} (h : Wanting buffer bytes) :
    ∃ n, Progress.ofOctets buffer = .needMore n := by
  have first := h [] bytes rfl
  rwa [List.append_nil] at first

theorem Wanting.tail {buffer bytes : Octets} {byte : UInt8} (h : Wanting buffer (byte :: bytes)) :
    Wanting (buffer ++ [byte]) bytes := by
  intro front back split
  rw [List.append_assoc, List.singleton_append]
  exact h (byte :: front) back (by rw [split, List.cons_append])

theorem gather_woven {pauses : Nat} {bytes : Octets} {woven : List Item}
    (h : Woven pauses bytes woven) (tail : List Item) {buffer : Octets} {silences : Nat}
    (past : List Octets) (wanting : Wanting buffer bytes)
    (few : silences + pauses < Link.silenceLimit) :
    ∃ past', (gather Item.source Decoder.link (woven ++ tail) buffer silences past
        (Progress.ofOctets buffer)).seen id =
      (gather Item.source Decoder.link tail (buffer ++ bytes) (silences + pauses) past'
        (Progress.ofOctets (buffer ++ bytes))).seen id := by
  induction h generalizing buffer silences past with
  | done =>
    rw [List.append_nil]
    exact ⟨past, rfl⟩
  | octet byte woven ih =>
    obtain ⟨n, missing⟩ := wanting.buffer
    rw [List.cons_append, link_octet missing]
    have rounds := ih ((buffer ++ [byte]) :: past) wanting.tail few
    rwa [List.append_assoc, List.singleton_append] at rounds
  | @pause pauses bytes items woven ih =>
    obtain ⟨n, missing⟩ := wanting.buffer
    have count : silences + (pauses + 1) = silences + 1 + pauses := by omega
    rw [count] at few ⊢
    rw [List.cons_append, link_pause missing _ _ _ (by omega)]
    exact ih (buffer :: past) wanting few

/-- Bytes of which no beginning is judged are all taken before the first judgement. -/
theorem start_growing {bytes : Octets} {items : List Item} (growing : Progress.Growing bytes)
    (h : Delivers bytes items) (tail : List Item) :
    ∃ silences past, (start Item.source Decoder.link (items ++ tail)).seen id =
      (gather Item.source Decoder.link tail bytes silences past (Progress.ofOctets bytes)).seen
        id := by
  obtain ⟨pauses, front, last, woven, rfl, few, weave, rfl⟩ := h
  have wanting : Wanting [] front := by
    intro first second split
    subst split
    rw [List.append_assoc] at growing
    exact growing first (second ++ [last]) rfl (List.append_ne_nil_of_right_ne_nil second (by simp))
  obtain ⟨n, missing⟩ := wanting front [] (List.append_nil front).symm
  obtain ⟨past, rounds⟩ := gather_woven weave (.octet last :: tail) [] wanting
    (show 0 + pauses < Link.silenceLimit by rw [Link.silenceLimit]; omega)
  rw [List.append_assoc, List.singleton_append]
  refine ⟨0 + pauses, (front ++ [last]) :: past, rounds.trans ?_⟩
  rw [link_octet missing, List.nil_append]

theorem start_delivered {frame : Frame} {bytes : Octets} {items : List Item}
    (wire : OnWire frame bytes) (h : Delivers bytes items) (tail : List Item) :
    (start Item.source Decoder.link (items ++ tail)).seen id = (bytes, .complete, tail) := by
  obtain ⟨silences, past, rounds⟩ := start_growing (Progress.growing_of_onWire wire) h tail
  have complete := Progress.complete_of_onWire wire []
  rw [List.append_nil] at complete
  rw [rounds, complete, gather_complete]
  rfl

end Reception

/-! ## Frame after frame -/

namespace Station
open Reception (calls start start_delivered start_seen verdict)

theorem receive_delivered {station : Station} (connected : station.connected = true)
    {frame : Frame} {bytes : Octets} {items tail : List Item} (wire : OnWire frame bytes)
    (h : Delivers bytes items) {adapter : Adapter} (queue : adapter.items = items ++ tail) :
    (station.receive adapter).result = .ok frame ∧
      (station.receive adapter).adapter.items = tail ∧
      Calls (fun hooks => ({ station with hooks }.receive adapter).notes) [(.received, bytes)] := by
  have seen := start_seen Adapter.source_plays Decoder.link_coherent adapter
  rw [queue, start_delivered wire h tail] at seen
  obtain ⟨buffer, rest⟩ := Prod.mk.inj seen
  obtain ⟨ending, left⟩ := Prod.mk.inj rest
  have some : ¬ bytes.isEmpty := fun empty => wire.ne_nil (List.isEmpty_iff.mp empty)
  have told := receive_calls connected adapter
  rw [receive_result connected, receive_adapter connected]
  rw [buffer, ending] at told ⊢
  have once : calls bytes .complete = [(.received, bytes)] := if_neg some
  rw [once] at told
  exact ⟨(if_neg some).trans wire.linkFrame, left, told⟩

/-- What receptions in a row come to. -/
structure Series where
  results : List (Except Fault Frame)
  adapter : Adapter
  notes : List Note

/-- So many receptions in a row. -/
def receiveTimes (station : Station) (adapter : Adapter) : Nat → Series
  | 0 => { results := [], adapter, notes := [] }
  | count + 1 =>
    let first := station.receive adapter
    let rest := first.station.receiveTimes first.adapter count
    { results := first.result :: rest.results, adapter := rest.adapter,
      notes := first.notes ++ rest.notes }

section Row

variable {station : Station} (connected : station.connected = true) (adapter : Adapter)
  (count : Nat)
include connected

theorem results_succ :
    (station.receiveTimes adapter (count + 1)).results =
      (station.receive adapter).result ::
        (station.receiveTimes (station.receive adapter).adapter count).results := by
  simp only [receiveTimes, receive_station connected]

theorem adapter_succ :
    (station.receiveTimes adapter (count + 1)).adapter =
      (station.receiveTimes (station.receive adapter).adapter count).adapter := by
  simp only [receiveTimes, receive_station connected]

theorem results_snoc :
    (station.receiveTimes adapter (count + 1)).results =
      (station.receiveTimes adapter count).results ++
        [(station.receive (station.receiveTimes adapter count).adapter).result] := by
  induction count generalizing adapter with
  | zero => rfl
  | succ count ih =>
    rw [results_succ connected adapter (count + 1), ih, results_succ connected adapter count,
      adapter_succ connected adapter count, List.cons_append]

theorem adapter_snoc :
    (station.receiveTimes adapter (count + 1)).adapter =
      (station.receive (station.receiveTimes adapter count).adapter).adapter := by
  induction count generalizing adapter with
  | zero => rfl
  | succ count ih =>
    rw [adapter_succ connected adapter (count + 1), ih, adapter_succ connected adapter count]

end Row

/-- Each reception of a stream brings its frame and tells the observers the bytes of that frame. -/
theorem receive_row (station : Station) (connected : station.connected = true)
    {frames : List Frame} {wires : List Octets} {items : List Item}
    (carried : Carries frames wires items) (tail : List Item) (adapter : Adapter)
    (queue : adapter.items = items ++ tail) :
    (station.receiveTimes adapter frames.length).results =
        frames.map (fun frame => .ok frame.canonical) ∧
      (station.receiveTimes adapter frames.length).adapter.items = tail ∧
      Calls (fun hooks => ({ station with hooks }.receiveTimes adapter frames.length).notes)
        (wires.map fun bytes => (.received, bytes)) := by
  induction carried generalizing adapter with
  | nil => exact ⟨rfl, queue, Calls.own [] rfl⟩
  | @cons frame bytes items frames wires more packed delivered rest ih =>
    rw [List.append_assoc] at queue
    obtain ⟨result, left, told⟩ :=
      receive_delivered connected (Frame.encode_ok packed) delivered queue
    obtain ⟨results, last, later⟩ := ih (station.receive adapter).adapter left
    have stations (hooks : Hooks) :
        ({ station with hooks }.receive adapter).station = { station with hooks } :=
      @receive_station { station with hooks } connected adapter
    have adapters (hooks : Hooks) :
        ({ station with hooks }.receive adapter).adapter = (station.receive adapter).adapter := by
      rw [receive_adapter connected, @receive_adapter { station with hooks } connected]
    simp only [List.length_cons, List.map_cons, receiveTimes, receive_station connected, stations,
      adapters]
    refine ⟨?_, last, told.append later⟩
    rw [result, results]

/-- **A stream of frames is received frame by frame and nothing is lost.** Each reception brings the
canonical form of its frame and tells the observers its bytes, which recording observers have on
record, and what comes behind the last frame is left on the line. -/
theorem receive_stream (station : Station) (connected : station.connected = true)
    {frames : List Frame} {wires : List Octets} {items : List Item}
    (carried : Carries frames wires items) (tail : List Item) (adapter : Adapter)
    (queue : adapter.items = items ++ tail) :
    (station.receiveTimes adapter frames.length).results =
        frames.map (fun frame => .ok frame.canonical) ∧
      (station.receiveTimes adapter frames.length).adapter.items = tail ∧
      Calls (fun hooks => ({ station with hooks }.receiveTimes adapter frames.length).notes)
        (wires.map fun bytes => (.received, bytes)) ∧
      ∀ label, Note.onRecord
          ({ station with hooks := .recording label }.receiveTimes adapter frames.length).notes =
        wires.map fun bytes => (.received, bytes) := by
  obtain ⟨results, left, told⟩ := receive_row station connected carried tail adapter queue
  exact ⟨results, left, told, fun label => told.recorded label⟩

/-- Two frames of which one chunk holds the end of the first and the start of the second, with two
pauses on the way to each and a loose byte behind them. -/
theorem receive_stream_two :
    let station : Station := { device := "/dev/ttyUSB0", connected := true }
    let adapter : Adapter := { incoming := [.silence, .data [0x10, 0x40], .data [],
      .data [1, 0x41, 0x16, 0x68, 3], .silence, .data [3, 0x68, 8, 1], .silence,
      .data [0x72, 0x7B, 0x16, 0x99]] }
    station.connected = true ∧
      (station.receiveTimes adapter 2).results =
        [.ok (Frame.linkReset 1), .ok ⟨.control, 8, 1, 0x72, [], 0x7B⟩] ∧
      (station.receiveTimes adapter 2).adapter.items = [.octet 0x99] ∧
      Calls (fun hooks => ({ station with hooks }.receiveTimes adapter 2).notes)
        [(.received, [0x10, 0x40, 1, 0x41, 0x16]),
          (.received, [0x68, 3, 3, 0x68, 8, 1, 0x72, 0x7B, 0x16])] ∧
      ∀ label, Note.onRecord
          ({ station with hooks := .recording label }.receiveTimes adapter 2).notes =
        [(.received, [0x10, 0x40, 1, 0x41, 0x16]),
          (.received, [0x68, 3, 3, 0x68, 8, 1, 0x72, 0x7B, 0x16])] := by
  have first : Delivers [0x10, 0x40, 1, 0x41, 0x16]
      [.pause, .octet 0x10, .octet 0x40, .pause, .octet 1, .octet 0x41, .octet 0x16] :=
    ⟨2, [0x10, 0x40, 1, 0x41], 0x16, _, rfl, Nat.le_refl 2,
      .pause (.octet _ (.octet _ (.pause (.octet _ (.octet _ .done))))), rfl⟩
  have second : Delivers [0x68, 3, 3, 0x68, 8, 1, 0x72, 0x7B, 0x16]
      [.octet 0x68, .octet 3, .pause, .octet 3, .octet 0x68, .octet 8, .octet 1, .pause,
        .octet 0x72, .octet 0x7B, .octet 0x16] :=
    ⟨2, [0x68, 3, 3, 0x68, 8, 1, 0x72, 0x7B], 0x16, _, rfl, Nat.le_refl 2,
      .octet _ (.octet _ (.pause (.octet _ (.octet _ (.octet _ (.octet _ (.pause
        (.octet _ (.octet _ .done))))))))), rfl⟩
  have carried : Carries [Frame.linkReset 1, ⟨.long, 8, 1, 0x72, [], 0⟩] _ _ :=
    .cons rfl first (.cons rfl second .nil)
  exact ⟨rfl, receive_stream _ rfl carried [.octet 0x99] _ rfl⟩

end Station

end MeterBus
