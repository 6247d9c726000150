import MeterBus.Proofs.Frame.Acceptance
import MeterBus.Proofs.Frame.Alteration

/-! # What a frame with one changed byte is read as

A byte behind the first that arrives as another leaves nothing at the front that could be a frame:
the length bytes differ, a mark is missing or the sum is wrong (`malformed_of_inside`). With another
start byte there can be a frame at the front, in two shapes (`Mistaken`), but a shorter one, so that
the verified decoder, which minds what follows a frame, detects this error as well.

* `Mistaken`: another start byte that makes another frame.
* `exists_front_iff`: frames at the front of an altered frame.
* `one_byte_detected`: the main result.
-/
namespace MeterBus
set_option autoImplicit false

namespace Frame

/-! ## Another start byte -/

/-- `Mistaken frame back other read eaten`: with `other` in place of its start byte, the wire form of
the frame, in which `back` stands behind that byte, begins with the bytes `eaten` of the frame
`read`. Either the byte is an acknowledgement of its own, or the length bytes are read as control
and address of a short frame, the second start byte as their sum and the control byte as the stop. -/
inductive Mistaken (frame : Frame) (back : Octets) : UInt8 → Frame → Octets → Prop where
  | ack (unlike : frame.type ≠ .ack) :
    Mistaken frame back Link.ackStart Frame.ack [Link.ackStart]
  | short {length : UInt8} {rest : Octets} (long : frame.type = .control ∨ frame.type = .long)
    (half : length = 0x34 ∨ length = 0xB4)
    (header : back = length :: length :: 0x68 :: 0x16 :: rest) :
    Mistaken frame back Link.shortStart ⟨.short, length, length, 0, [], 0x68⟩
      [0x10, length, length, 0x68, 0x16]

theorem double_eq_longStart {byte : UInt8} :
    byte + byte = Link.longStart ↔ byte = 0x34 ∨ byte = 0xB4 := by
  have small := byte.toNat_lt
  simp only [← UInt8.toNat_inj, UInt8.toNat_add, Link.longStart, UInt8.reduceToNat]
  omega

theorem encode_cases {frame : Frame} {bytes : Octets} (packed : frame.encode = .ok bytes) :
    (frame.type = .ack ∧ bytes = [Link.ackStart]) ∨
      (frame.type = .short ∧ ∃ control address,
        bytes = [Link.shortStart, control, address, control + address, Link.stop]) ∨
      ((frame.type = .control ∨ frame.type = .long) ∧ ∃ control address information data,
        data.length < 253 ∧ bytes = envelope (control :: address :: information :: data)) := by
  have wire := encode_ok packed
  have types := type_canonical frame
  generalize frame.canonical = read at wire types
  cases wire with
  | ack => exact Or.inl ⟨types.1.mp rfl, rfl⟩
  | short control address => exact Or.inr (Or.inl ⟨types.2.mp rfl, control, address, rfl⟩)
  | long control address information data fits =>
    refine Or.inr (Or.inr ⟨?_, control, address, information, data, fits, rfl⟩)
    rw [long_eq] at types
    cases type : frame.type with
    | ack => cases data <;> exact nomatch types.1.mpr type
    | short => cases data <;> exact nomatch types.2.mpr type
    | control => exact Or.inl rfl
    | long => exact Or.inr rfl

theorem Mistaken.onWire {frame read : Frame} {back eaten : Octets} {other : UInt8}
    (h : Mistaken frame back other read eaten) :
    OnWire read eaten ∧ ∃ rest, other :: back = eaten ++ rest := by
  cases h with
  | ack unlike => exact ⟨.ack, back, rfl⟩
  | @short length rest long half header =>
    have sum : length + length = 0x68 := double_eq_longStart.mpr half
    have wire := OnWire.short length length
    rw [Frame.short, sealed, Frame.sum, sum] at wire
    exact ⟨wire, rest, by rw [header]; rfl⟩

/-- A frame at the front of another with its start byte changed is one of the two. -/
theorem mistaken_of_onWire {frame read : Frame} {back eaten rest : Octets} {byte other : UInt8}
    (packed : frame.encode = .ok (byte :: back)) (changed : other ≠ byte) (wire : OnWire read eaten)
    (split : other :: back = eaten ++ rest) : Mistaken frame back other read eaten := by
  have cases := encode_cases packed
  cases wire with
  | ack =>
    obtain ⟨rfl, -⟩ := List.cons.inj split
    refine .ack fun type => changed ?_
    obtain ⟨-, is⟩ | ⟨other, -⟩ | ⟨other | other, -⟩ := cases
    · exact (List.cons.inj is).1.symm
    · cases type.symm.trans other
    · cases type.symm.trans other
    · cases type.symm.trans other
  | short control address =>
    obtain ⟨rfl, rfl⟩ := List.cons.inj split
    obtain ⟨-, is⟩ | ⟨-, _, _, is⟩ | ⟨long, _, _, _, _, -, is⟩ := cases
    · cases (List.cons.inj is).2
    · exact absurd (List.cons.inj is).1.symm changed
    · -- Start byte, both lengths, second start byte and control byte, one after the other.
      obtain ⟨-, tail⟩ := List.cons.inj is
      obtain ⟨first, tail⟩ := List.cons.inj tail
      obtain ⟨second, tail⟩ := List.cons.inj tail
      obtain ⟨double, -⟩ := List.cons.inj tail
      obtain rfl : control = address := first.trans second.symm
      have read : Frame.short control control = ⟨.short, control, control, 0, [], 0x68⟩ := by
        rw [Frame.short, sealed, Frame.sum, double]
        rfl
      rw [read, double]
      exact .short long (double_eq_longStart.mp double) rfl
  | long control address information data fits =>
    obtain ⟨rfl, rfl⟩ := List.cons.inj split
    obtain ⟨-, is⟩ | ⟨-, _, _, is⟩ | ⟨-, _, _, _, _, -, is⟩ := cases
    · cases (List.cons.inj is).2
    · have count := congrArg List.length is
      simp at count
    · exact absurd (List.cons.inj is).1.symm changed

/-- With any other byte changed, there is nothing at the front that could be a frame. -/
theorem malformed_of_inside {frame : Frame} {front back : Octets} {byte other : UInt8}
    (packed : frame.encode = .ok (front ++ byte :: back)) (changed : other ≠ byte)
    (inside : front ≠ []) : Progress.ofOctets (front ++ other :: back) = .malformed := by
  by_cases behind : settled frame.canonical.type ≤ front.length
  · exact ((encode_ok packed).refused behind changed).2
  rw [settled_canonical] at behind
  obtain ⟨type, is⟩ | ⟨type, _, _, is⟩ | ⟨type, control, address, information, data, fits, is⟩ :=
    encode_cases packed
  · rw [type] at behind
    exact absurd (List.length_pos_iff.mpr inside) behind
  · rw [type] at behind
    exact absurd (List.length_pos_iff.mpr inside) behind
  · -- One of the two length bytes is no longer the other.
    have few : front.length < 3 := by
      obtain type | type := type <;> rw [type] at behind <;> exact Nat.lt_of_not_le behind
    match front with
    | [start] =>
      obtain ⟨rfl, tail⟩ := List.cons.inj is
      obtain ⟨rfl, rfl⟩ := List.cons.inj tail
      exact if_neg fun header => changed header.1
    | [start, length] =>
      obtain ⟨rfl, tail⟩ := List.cons.inj is
      obtain ⟨same, tail⟩ := List.cons.inj tail
      obtain ⟨same', tail⟩ := List.cons.inj tail
      exact if_neg fun header => changed (header.1.symm.trans (same.trans same'.symm))
    | _ :: _ :: _ :: _ =>
      simp only [List.length_cons] at few
      omega

/-- Frames at the front of a frame with one byte changed: none but a mistaken one. -/
theorem exists_front_iff {frame read : Frame} {front back : Octets} {byte other : UInt8}
    (packed : frame.encode = .ok (front ++ byte :: back)) (changed : other ≠ byte) :
    (∃ eaten rest, front ++ other :: back = eaten ++ rest ∧ OnWire read eaten) ↔
      front = [] ∧ ∃ eaten, Mistaken frame back other read eaten := by
  constructor
  · rintro ⟨eaten, rest, split, wire⟩
    by_cases start : front = []
    · subst start
      exact ⟨rfl, eaten, mistaken_of_onWire packed changed wire split⟩
    · have judged := malformed_of_inside packed changed start
      rw [split, Progress.complete_of_onWire wire rest] at judged
      exact nomatch judged
  · rintro ⟨rfl, eaten, mistaken⟩
    obtain ⟨wire, rest, split⟩ := mistaken.onWire
    exact ⟨eaten, rest, split, wire⟩

/-! ## Detection -/

theorem Mistaken.length_lt {frame read : Frame} {back eaten : Octets} {byte other : UInt8}
    (h : Mistaken frame back other read eaten) (packed : frame.encode = .ok (byte :: back)) :
    eaten.length < (other :: back).length := by
  cases h with
  | ack unlike =>
    obtain ⟨type, -⟩ | ⟨-, _, _, is⟩ | ⟨-, _, _, _, _, -, is⟩ := encode_cases packed
    · exact absurd type unlike
    · rw [(List.cons.inj is).2]
      exact Nat.succ_lt_succ (Nat.succ_pos _)
    · rw [(List.cons.inj is).2]
      exact Nat.succ_lt_succ (Nat.succ_pos _)
  | short long half header =>
    obtain ⟨type, -⟩ | ⟨type, -⟩ | ⟨-, control, address, information, data, -, is⟩ :=
      encode_cases packed
    · rcases long with long | long <;> exact nomatch type.symm.trans long
    · rcases long with long | long <;> exact nomatch type.symm.trans long
    · have length := congrArg List.length is
      rw [envelope_length] at length
      simp only [List.length_cons, List.length_nil] at length ⊢
      omega

/-- A frame at the front of the altered bytes is shorter than they are, and the decoder minds. -/
theorem linkFrame_altered {frame : Frame} {front back : Octets} {byte other : UInt8}
    (packed : frame.encode = .ok (front ++ byte :: back)) (changed : other ≠ byte) :
    ¬ ∃ read, Decoder.linkFrame (front ++ other :: back) = .ok read := by
  rintro ⟨read, decoded⟩
  have wire := (linkFrame_ok_iff _ read).mp decoded
  obtain ⟨rfl, eaten, mistaken⟩ :=
    (exists_front_iff packed changed).mp ⟨_, [], (List.append_nil _).symm, wire⟩
  obtain ⟨shorter, rest, split⟩ := mistaken.onWire
  have none : [] = rest := (wire.unique shorter ((List.append_nil _).trans split)).2
  rw [← none, List.append_nil] at split
  have less := mistaken.length_lt packed
  rw [← split] at less
  exact Nat.lt_irrefl _ less

/-- **The decoder detects every error of one byte.** The wire form of a frame decodes to its
canonical form, and to nothing at all once any one of its bytes is another. -/
theorem one_byte_detected {frame : Frame} {bytes : Octets} (packed : frame.encode = .ok bytes) :
    Decoder.linkFrame bytes = .ok frame.canonical ∧
      ∀ (index : Nat) (inside : index < bytes.length) (other : UInt8), other ≠ bytes[index] →
        ∃ reason, Decoder.linkFrame (bytes.set index other) = .error (.parse reason) := by
  refine ⟨(encode_ok packed).linkFrame, ?_⟩
  intro index inside other changed
  have split : bytes = bytes.take index ++ bytes[index] :: bytes.drop (index + 1) := by
    rw [List.getElem_cons_drop, List.take_append_drop]
  have altered : bytes.set index other = bytes.take index ++ other :: bytes.drop (index + 1) := by
    rw [List.set_eq_take_append_cons_drop, if_pos inside]
  rw [split] at packed
  rw [altered]
  exact linkFrame_error (linkFrame_altered packed changed)

set_option maxRecDepth 2000 in
/-- A long frame that begins with a short one once its start byte is that of a short frame. -/
theorem one_byte_detected_start :
    let frame : Frame := ⟨.long, 0x16, 1, 0x72, List.replicate 49 0, 0⟩
    let rest : Octets := 0x34 :: 0x34 :: 0x68 :: 0x16 :: 1 :: 0x72 ::
      (List.replicate 49 0 ++ [0x89, 0x16])
    frame.encode = .ok (0x68 :: rest) ∧ Progress.ofOctets (0x10 :: rest) = .complete ∧
      ∃ reason, Decoder.linkFrame (0x10 :: rest) = .error (.parse reason) := by
  intro frame rest
  have packed : frame.encode = .ok (0x68 :: rest) := rfl
  have inside : 0 < (0x68 :: rest).length := Nat.succ_pos _
  have changed : (0x10 : UInt8) ≠ 0x68 := by decide
  exact ⟨packed, rfl, (one_byte_detected packed).2 0 inside 0x10 changed⟩

end Frame

end MeterBus
