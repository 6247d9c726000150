import MeterBus.Proofs.Frame.Detection
import MeterBus.Proofs.Reception.Recovery

/-! # A frame of which one byte is read as another

Bytes that arrive without a pause and have silence behind them are taken up to the first verdict on
them, or all of them if there is none (`receive_falling`). So a reception brings a frame exactly if
one stands at the front of the bytes. In a frame of which a single byte was changed there is one
only if it is the start byte that was changed, and then in two shapes (`Frame.Mistaken`).

* `Silent`: the line says nothing for so many reads.
* `Received`: what can come of bytes with silence behind them.
-/
namespace MeterBus
open MeterBus.Frame (OnWire)
set_option autoImplicit false

/-! ## Silence -/

/-- The line says nothing for so many reads. -/
inductive Silent : Nat → List Item → Prop where
  | over (tail : List Item) : Silent 0 tail
  | dry (reads : Nat) : Silent reads []
  | pause {reads : Nat} {tail : List Item} (more : Silent reads tail) :
    Silent (reads + 1) (.pause :: tail)

theorem Silent.read {reads : Nat} {tail : List Item} (h : Silent (reads + 1) tail) :
    ∃ rest, Silent reads rest ∧ ∀ size, Item.source.read tail size = (.ok [], rest) := by
  cases h with
  | dry => exact ⟨[], .dry reads, fun _ => rfl⟩
  | @pause reads rest more => exact ⟨rest, more, fun _ => rfl⟩

theorem items_chunks {chunks : List Octets} (solid : ∀ chunk ∈ chunks, chunk ≠ []) :
    (chunks.map Adapter.Delivery.data).flatMap Adapter.Delivery.items =
      chunks.flatten.map .octet := by
  induction chunks with
  | nil => rfl
  | cons chunk chunks ih =>
    have first := Adapter.Delivery.items_data (solid chunk List.mem_cons_self)
    have others := ih fun other among => solid other (List.mem_cons_of_mem chunk among)
    rw [List.map_cons, List.flatMap_cons, first, others, List.flatten_cons, List.map_append]

/-! ## Bytes with silence behind them -/

namespace Reception
open Progress (Growing growing_nil)

/-- Buffer, ending and what is left in view of a loop that meets the bytes and then silence. -/
inductive Heard (bytes : Octets) (tail : List Item) : Octets × Ending × List Item → Prop where
  | complete {frame : Frame} {front back : Octets} (split : bytes = front ++ back)
    (wire : OnWire frame front) : Heard bytes tail (front, .complete, back.map .octet ++ tail)
  | malformed {front back : Octets} (split : bytes = front ++ back)
    (judged : Progress.ofOctets front = .malformed) :
    Heard bytes tail (front, .malformed, back.map .octet ++ tail)
  | silent {n : Nat} {left : List Item} (wanting : Progress.ofOctets bytes = .needMore n) :
    Heard bytes tail (bytes, .silent, left)

theorem gather_silent {buffer : Octets} {n : Nat} (wanting : Progress.ofOctets buffer = .needMore n)
    (reads : Nat) {tail : List Item} (silent : Silent (reads + 1) tail) (silences : Nat)
    (last : silences + reads + 1 = Link.silenceLimit) (past : List Octets) :
    ∃ left, (gather Item.source Decoder.link tail buffer silences past
      (Progress.ofOctets buffer)).seen id = (buffer, .silent, left) := by
  obtain ⟨missing, answer, fits⟩ := room_of_needMore wanting
  induction reads generalizing tail silences past with
  | zero =>
    obtain ⟨rest, -, read⟩ := silent.read
    refine ⟨rest, ?_⟩
    rw [answer]
    exact gather_lastPause Item.source Decoder.link buffer silences past id fits
      (read (missing + 1)) (by omega)
  | succ reads ih =>
    obtain ⟨rest, silent, read⟩ := silent.read
    obtain ⟨left, rounds⟩ := ih silent (silences + 1) (by omega) (buffer :: past)
    refine ⟨left, ?_⟩
    rw [answer]
    rw [gather_pause Item.source Decoder.link buffer silences past id fits (read (missing + 1))
      (by omega)]
    exact rounds

theorem gather_falling {tail : List Item} (silent : Silent Link.silenceLimit tail) (bytes : Octets)
    {buffer : Octets} {n : Nat} (growing : Growing buffer)
    (wanting : Progress.ofOctets buffer = .needMore n) (past : List Octets) :
    Heard (buffer ++ bytes) tail
      ((gather Item.source Decoder.link (bytes.map .octet ++ tail) buffer 0 past
        (Progress.ofOctets buffer)).seen id) := by
  induction bytes generalizing buffer n past with
  | nil =>
    obtain ⟨left, rounds⟩ := gather_silent wanting 2 silent 0 rfl past
    rw [List.append_nil, List.map_nil, List.nil_append, rounds]
    exact .silent wanting
  | cons byte bytes ih =>
    have positive := (Progress.needMore_bounds wanting).1
    have grown : Growing (buffer ++ [byte]) := growing.append wanting positive
    have split : buffer ++ byte :: bytes = buffer ++ [byte] ++ bytes := by
      rw [List.append_assoc, List.singleton_append]
    rw [List.map_cons, List.cons_append, link_octet wanting, split]
    cases judged : Progress.ofOctets (buffer ++ [byte]) with
    | complete =>
      obtain ⟨frame, wire⟩ := grown.onWire judged
      rw [gather_complete]
      exact .complete rfl wire
    | malformed =>
      rw [gather_malformed]
      exact .malformed rfl judged
    | needMore more =>
      have rounds := ih grown judged ((buffer ++ [byte]) :: past)
      rwa [judged] at rounds

theorem start_falling {tail : List Item} (silent : Silent Link.silenceLimit tail) (bytes : Octets) :
    Heard bytes tail ((start Item.source Decoder.link (bytes.map .octet ++ tail)).seen id) :=
  gather_falling silent bytes growing_nil rfl []

end Reception

namespace Station
open Reception (Heard start_falling start_seen verdict)

/-- What can come of bytes with silence behind them: the frame at their front, a refusal of what
stands there, or all of them as the beginning of a frame. With it, what is left on the line. -/
inductive Received (bytes : Octets) (tail : List Item) : Except Fault Frame → List Item → Prop where
  | frame {read : Frame} {eaten rest : Octets} (split : bytes = eaten ++ rest)
    (wire : OnWire read eaten) : Received bytes tail (.ok read) (rest.map .octet ++ tail)
  | refused {front back : Octets} (split : bytes = front ++ back)
    (judged : Progress.ofOctets front = .malformed) :
    Received bytes tail (.error (.refusal front)) (back.map .octet ++ tail)
  | incomplete {n : Nat} {left : List Item} (wanting : Progress.ofOctets bytes = .needMore n) :
    Received bytes tail (.error (.incomplete bytes.length)) left

theorem receive_falling {station : Station} (connected : station.connected = true)
    {bytes : Octets} (some : bytes ≠ []) {tail : List Item}
    (silent : Silent Link.silenceLimit tail) {adapter : Adapter}
    (queue : adapter.items = bytes.map .octet ++ tail) :
    Received bytes tail (station.receive adapter).result
      (station.receive adapter).adapter.items := by
  have seen := start_seen Adapter.source_plays Decoder.link_coherent adapter
  have heard := start_falling silent bytes
  rw [← queue, ← seen] at heard
  rw [receive_result connected, receive_adapter connected]
  generalize Reception.start Adapter.source Decoder.link adapter = gathered at heard ⊢
  obtain ⟨line, buffer, past, ending, notes⟩ := gathered
  generalize left : line.items = items
  simp only [Reception.Gathered.seen, left] at heard ⊢
  cases heard with
  | @complete frame buffer back split wire =>
    have bytes : ¬ buffer.isEmpty := fun empty => wire.ne_nil (List.isEmpty_iff.mp empty)
    have decoded : verdict Decoder.link past buffer .complete = .ok frame :=
      (if_neg bytes).trans wire.linkFrame
    rw [decoded]
    exact .frame split wire
  | malformed split judged =>
    cases buffer with
    | nil => exact nomatch judged
    | cons byte bytes => exact .refused split judged
  | silent wanting =>
    rw [verdict, if_neg (by simpa using some)]
    exact .incomplete wanting

/-- **A reception brings the frame at the front of the bytes if there is one, and else a refusal or
an incomplete frame.** -/
theorem Received.ok_iff {bytes : Octets} {tail : List Item} {result : Except Fault Frame}
    {left : List Item} (h : Received bytes tail result left) (read : Frame) :
    result = .ok read ↔ ∃ eaten rest, bytes = eaten ++ rest ∧ OnWire read eaten := by
  constructor
  · rintro rfl
    cases h with
    | frame split wire => exact ⟨_, _, split, wire⟩
  · rintro ⟨eaten, rest, split, wire⟩
    have complete := Progress.complete_of_onWire wire rest
    rw [← split] at complete
    cases h with
    | frame split' wire' => rw [(wire.unique wire' (split.symm.trans split')).1]
    | @refused front back split' judged =>
      rw [split', Progress.malformed_append judged] at complete
      exact nomatch complete
    | incomplete wanting =>
      rw [wanting] at complete
      exact nomatch complete

theorem Received.left_of_ok {bytes : Octets} {tail : List Item} {read : Frame} {left : List Item}
    (h : Received bytes tail (.ok read) left) {eaten rest : Octets} (split : bytes = eaten ++ rest)
    (wire : OnWire read eaten) : left = rest.map .octet ++ tail := by
  cases h with
  | frame split' wire' => rw [(wire.unique wire' (split.symm.trans split')).2]

theorem Received.error_cases {bytes : Octets} {tail : List Item} {result : Except Fault Frame}
    {left : List Item} (h : Received bytes tail result left) (failed : ¬ ∃ read, result = .ok read) :
    (∃ reason, result = .error (.parse reason)) ∨
      ∃ received, result = .error (.incomplete received) := by
  cases h with
  | frame split wire => exact absurd ⟨_, rfl⟩ failed
  | refused split judged => exact Or.inl ⟨_, rfl⟩
  | incomplete wanting => exact Or.inr ⟨_, rfl⟩

/-! ## A frame with one byte changed -/

open MeterBus.Frame (Mistaken exists_front_iff)

/-- **A reception is taken in by a changed byte in two shapes only, both in the start byte.** The
wire form of a frame comes with one byte changed, in whatever chunks, and silence behind it. If the
reception brings a frame, then a mistaken one, and takes no more than that from the line; otherwise
it refuses what came or finds it incomplete. -/
theorem receive_misread {station : Station} (connected : station.connected = true) {frame : Frame}
    {front back : Octets} {byte other : UInt8}
    (packed : frame.encode = .ok (front ++ byte :: back)) (changed : other ≠ byte)
    {chunks : List Octets} (solid : ∀ chunk ∈ chunks, chunk ≠ [])
    (delivered : chunks.flatten = front ++ other :: back) {rest : List Adapter.Delivery}
    (silent : Silent Link.silenceLimit (rest.flatMap Adapter.Delivery.items)) {adapter : Adapter}
    (queue : adapter.incoming = chunks.map .data ++ rest) :
    (∀ read, (station.receive adapter).result = .ok read ↔
        front = [] ∧ ∃ eaten, Mistaken frame back other read eaten) ∧
      (∀ read eaten, front = [] → Mistaken frame back other read eaten →
        adapter.items = eaten.map .octet ++ (station.receive adapter).adapter.items) ∧
      ((¬ ∃ read, (station.receive adapter).result = .ok read) →
        (∃ reason, (station.receive adapter).result = .error (.parse reason)) ∨
          ∃ received, (station.receive adapter).result = .error (.incomplete received)) := by
  have items : adapter.items =
      (front ++ other :: back).map .octet ++ rest.flatMap Adapter.Delivery.items := by
    rw [Adapter.items, queue, List.flatMap_append, items_chunks solid, delivered]
  have received := receive_falling connected (by simp) silent items
  have brings (read : Frame) := (received.ok_iff read).trans (exists_front_iff packed changed)
  refine ⟨brings, ?_, received.error_cases⟩
  rintro read eaten rfl mistaken
  obtain ⟨wire, rest, split⟩ := mistaken.onWire
  rw [(brings read).mpr ⟨rfl, eaten, mistaken⟩] at received
  rw [items, received.left_of_ok split wire, List.nil_append, split, List.map_append,
    List.append_assoc]

set_option maxRecDepth 2000 in
/-- A long frame of fifty-two counted bytes whose control byte is the stop byte, with the start of a
short frame in place of its own, in two chunks, and three pauses behind it. -/
theorem receive_misread_short :
    let station : Station := { device := "/dev/ttyUSB0", connected := true }
    let frame : Frame := ⟨.long, 0x16, 1, 0x72, List.replicate 49 0, 0⟩
    let rest : Octets := 1 :: 0x72 :: (List.replicate 49 0 ++ [0x89, 0x16])
    let adapter : Adapter := { incoming := [.data [0x10, 0x34], .data (0x34 :: 0x68 :: 0x16 :: rest),
      .silence, .silence, .silence] }
    frame.encode = .ok (0x68 :: 0x34 :: 0x34 :: 0x68 :: 0x16 :: rest) ∧
      (station.receive adapter).result = .ok (Frame.short 0x34 0x34) ∧
      (station.receive adapter).adapter.items = rest.map .octet ++ [.pause, .pause, .pause] := by
  intro station frame rest adapter
  have packed : frame.encode = .ok ([] ++ 0x68 :: 0x34 :: 0x34 :: 0x68 :: 0x16 :: rest) := rfl
  have mistaken : Mistaken frame (0x34 :: 0x34 :: 0x68 :: 0x16 :: rest) 0x10 (Frame.short 0x34 0x34)
      [0x10, 0x34, 0x34, 0x68, 0x16] := .short (Or.inr rfl) (Or.inl rfl) rfl
  have changed : (0x10 : UInt8) ≠ 0x68 := by decide
  have solid : ∀ chunk ∈ [[0x10, 0x34], 0x34 :: 0x68 :: 0x16 :: rest], chunk ≠ [] := by simp
  have delivered : [[0x10, 0x34], 0x34 :: 0x68 :: 0x16 :: rest].flatten =
      [] ++ 0x10 :: 0x34 :: 0x34 :: 0x68 :: 0x16 :: rest := by simp
  have silent : Silent Link.silenceLimit
      ([.silence, .silence, .silence].flatMap Adapter.Delivery.items) :=
    .pause (.pause (.pause (.over [])))
  have queue : adapter.incoming = [[0x10, 0x34], 0x34 :: 0x68 :: 0x16 :: rest].map .data ++
      [.silence, .silence, .silence] := rfl
  have connected : station.connected = true := rfl
  obtain ⟨brings, left, -⟩ := receive_misread connected packed changed solid delivered silent queue
  have taken := left (Frame.short 0x34 0x34) [0x10, 0x34, 0x34, 0x68, 0x16] rfl mistaken
  have items : adapter.items = [0x10, 0x34, 0x34, 0x68, 0x16].map .octet ++
      (rest.map .octet ++ [.pause, .pause, .pause]) := rfl
  exact ⟨packed, (brings _).mpr ⟨rfl, _, mistaken⟩, (List.append_cancel_left (items ▸ taken)).symm⟩

end Station

end MeterBus
