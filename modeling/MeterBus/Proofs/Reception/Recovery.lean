import MeterBus.Proofs.Frame.Alteration
import MeterBus.Proofs.Reception.Stream

/-! # Recovering behind a fault

What goes wrong on a line costs the reception it happens in and no other. A stray byte, a frame torn
off by silence or broken off by the line, and a frame with a byte that changed on the way are each
taken whole, and the next reception starts right behind them.

* `Spoils`: the segments a line can spoil, each with the fault it comes to.
* `receive_spoiled`: one reception.
* `receive_segments`: receptions in a row.
-/
namespace MeterBus
open MeterBus.Frame (OnWire settled)
set_option autoImplicit false

/-- The fault of a buffer that no frame can come of. -/
def Fault.refusal (buffer : Octets) : Fault :=
  .parse ("malformed frame data: " ++ Octets.hex buffer)

/-- `Spoils items fault`: the items are no frame, and a reception that meets them ends with the
fault. -/
inductive Spoils : List Item → Fault → Prop where
  /-- A byte that starts no frame. -/
  | stray {byte : UInt8} {items : List Item}
    (starts : byte ≠ Link.ackStart ∧ byte ≠ Link.shortStart ∧ byte ≠ Link.longStart)
    (delivered : Delivers [byte] items) : Spoils items (.refusal [byte])
  /-- A frame that a third pause cuts short. -/
  | torn {frame : Frame} {front back : Octets} {woven : List Item}
    (packed : frame.encode = .ok (front ++ back)) (proper : back ≠ [])
    (weave : Woven 2 front woven) :
    Spoils (woven ++ [.pause]) (if front.isEmpty then .receiveTimeout else .incomplete front.length)
  /-- A frame that a fault of the line cuts short. -/
  | broken {frame : Frame} {front back : Octets} {pauses : Nat} {woven : List Item}
    (packed : frame.encode = .ok (front ++ back)) (proper : back ≠ []) (few : pauses ≤ 2)
    (weave : Woven pauses front woven) (kind : IoFault.Kind) :
    Spoils (woven ++ [.fault kind]) (.read ⟨kind, "mock read failure"⟩)
  /-- A frame with another byte in place of one behind its header. -/
  | corrupt {frame : Frame} {front back : Octets} {byte other : UInt8} {items : List Item}
    (packed : frame.encode = .ok (front ++ byte :: back))
    (behind : settled frame.type ≤ front.length) (changed : other ≠ byte)
    (delivered : Delivers (front ++ other :: back) items) :
    Spoils items (.refusal (front ++ other :: back))

namespace Reception

theorem refused_stray {byte : UInt8}
    (starts : byte ≠ Link.ackStart ∧ byte ≠ Link.shortStart ∧ byte ≠ Link.longStart) :
    Progress.Refused [byte] := by
  have growing : Progress.Growing ([] ++ [byte]) := Progress.growing_nil.append rfl (Nat.le_refl 1)
  refine ⟨growing, ?_⟩
  obtain ack | short | long | other := Progress.start_cases byte
  · exact absurd ack starts.1
  · exact absurd short starts.2.1
  · exact absurd long starts.2.2
  · exact other []

theorem start_refused {bytes : Octets} {items : List Item} (refused : Progress.Refused bytes)
    (h : Delivers bytes items) (tail : List Item) :
    (start Item.source Decoder.link (items ++ tail)).seen id = (bytes, .malformed, tail) := by
  obtain ⟨silences, past, rounds⟩ := start_growing refused.1 h tail
  rw [rounds, refused.2, gather_malformed]
  rfl

section Cut

variable {frame : Frame} {front back : Octets} (packed : frame.encode = .ok (front ++ back))
  (proper : back ≠ [])
include packed proper

theorem wanting_front : Wanting [] front := by
  intro first second split
  subst split
  have wire := Frame.encode_ok packed
  rw [List.append_assoc] at wire
  exact Progress.needMore_of_onWire wire (List.append_ne_nil_of_right_ne_nil second proper)

theorem start_torn {woven : List Item} (weave : Woven 2 front woven) (tail : List Item) :
    (start Item.source Decoder.link (woven ++ .pause :: tail)).seen id = (front, .silent, tail) := by
  have wanting := wanting_front packed proper
  obtain ⟨n, missing⟩ := wanting front [] (List.append_nil front).symm
  have patient : 0 + 2 < Link.silenceLimit := by decide
  obtain ⟨past, rounds⟩ := gather_woven weave (.pause :: tail) [] wanting patient
  obtain ⟨more, answer, fits⟩ := room_of_needMore missing
  refine rounds.trans ?_
  rw [answer]
  exact gather_lastPause Item.source Decoder.link _ _ past id fits
    ((Reads.pause tail).source_pause (more + 1)) (by decide)

theorem start_broken {pauses : Nat} (few : pauses ≤ 2) {woven : List Item}
    (weave : Woven pauses front woven) (kind : IoFault.Kind) (tail : List Item) :
    (start Item.source Decoder.link (woven ++ .fault kind :: tail)).seen id =
      (front, .failed ⟨kind, "mock read failure"⟩, tail) := by
  have wanting := wanting_front packed proper
  obtain ⟨n, missing⟩ := wanting front [] (List.append_nil front).symm
  have patient : 0 + pauses < Link.silenceLimit := by
    rw [Link.silenceLimit]
    omega
  obtain ⟨past, rounds⟩ := gather_woven weave (.fault kind :: tail) [] wanting patient
  obtain ⟨more, answer, fits⟩ := room_of_needMore missing
  refine rounds.trans ?_
  rw [answer]
  exact gather_fault Item.source Decoder.link _ _ past id fits
    ((Reads.fault kind tail).source_fault (more + 1))

end Cut

/-- A reception takes a spoiled segment and nothing behind it. -/
theorem start_spoiled {items : List Item} {fault : Fault} (h : Spoils items fault)
    (tail : List Item) :
    ∃ buffer ending,
      (start Item.source Decoder.link (items ++ tail)).seen id = (buffer, ending, tail) ∧
        ∀ past, verdict Decoder.link past buffer ending = .error fault := by
  cases h with
  | @stray byte items starts delivered =>
    exact ⟨_, _, start_refused (refused_stray starts) delivered tail, fun _ => rfl⟩
  | torn packed proper weave =>
    rw [List.append_assoc]
    exact ⟨_, _, start_torn packed proper weave tail, fun _ => rfl⟩
  | broken packed proper few weave kind =>
    rw [List.append_assoc]
    exact ⟨_, _, start_broken packed proper few weave kind tail, fun _ => rfl⟩
  | @corrupt frame front back byte other items packed behind changed delivered =>
    rw [← Frame.settled_canonical] at behind
    have refused := (Frame.encode_ok packed).refused behind changed
    have some : ¬ (front ++ other :: back).isEmpty := by simp
    refine ⟨_, _, start_refused refused delivered tail, fun _ => ?_⟩
    simp only [verdict, if_neg some]
    rfl

end Reception

namespace Station
open Reception (start_seen start_spoiled)

variable {station : Station} (connected : station.connected = true)
include connected

theorem receive_spoiled {items tail : List Item} {fault : Fault} (h : Spoils items fault)
    {adapter : Adapter} (queue : adapter.items = items ++ tail) :
    (station.receive adapter).result = .error fault ∧
      (station.receive adapter).adapter.items = tail := by
  obtain ⟨buffer, ending, spoiled, faulty⟩ := start_spoiled h tail
  have seen := start_seen Adapter.source_plays Decoder.link_coherent adapter
  rw [queue, spoiled] at seen
  obtain ⟨held, rest⟩ := Prod.mk.inj seen
  obtain ⟨ended, left⟩ := Prod.mk.inj rest
  rw [receive_result connected, receive_adapter connected, held, ended]
  exact ⟨faulty _, left⟩

/-- **Every spoiled segment costs one reception**, and what comes behind the last is left on the
line. -/
theorem receive_segments {segments : List (List Item × Fault)}
    (spoiled : ∀ segment ∈ segments, Spoils segment.1 segment.2) {tail : List Item}
    {adapter : Adapter} (queue : adapter.items = segments.flatMap Prod.fst ++ tail) :
    (station.receiveTimes adapter segments.length).results =
        segments.map (fun segment => .error segment.2) ∧
      (station.receiveTimes adapter segments.length).adapter.items = tail := by
  induction segments generalizing adapter with
  | nil => exact ⟨rfl, queue⟩
  | cons segment segments ih =>
    have head := spoiled segment (List.mem_cons_self ..)
    rw [List.flatMap_cons, List.append_assoc] at queue
    obtain ⟨result, left⟩ := receive_spoiled connected head queue
    have others : ∀ segment ∈ segments, Spoils segment.1 segment.2 :=
      fun other among => spoiled other (List.mem_cons_of_mem segment among)
    obtain ⟨results, last⟩ := ih others left
    rw [List.length_cons, results_succ connected, adapter_succ connected, result, results]
    exact ⟨rfl, last⟩

end Station

end MeterBus
