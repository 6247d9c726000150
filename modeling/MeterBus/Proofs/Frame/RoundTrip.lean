import MeterBus.Decoder
import MeterBus.Proofs.Frame.Completion

/-! # Reading back what was written

Every frame that has a wire form, whether its fields fit its shape or not, is read back as its
canonical form by the parser, by the verified decoder and by the incremental check alike, with
anything behind it. The frames a station builds are canonical, so they come back as they were.
-/
namespace MeterBus
set_option autoImplicit false

namespace Frame

/-- The frames that the library builds itself. -/
inductive Built : Frame → Prop where
  | ack : Built ack
  | short (control address : UInt8) : Built (short control address)
  | long (control address information : UInt8) (data : Octets) :
    Built (long control address information data)
  | linkReset (address : UInt8) : Built (linkReset address)
  | dataRequest (address : UInt8) : Built (dataRequest address)
  | wakeRequest (address : UInt8) : Built (wakeRequest address)
  | sendData (control address : UInt8) (data : Octets) : Built (sendData control address data)

theorem Built.canonical {frame : Frame} (h : Built frame) : frame.canonical = frame := by
  cases h with
  | ack => rfl
  | short | linkReset | dataRequest | wakeRequest => rfl
  | long control address information data => exact canonical_long control address information data
  | sendData control address data => exact canonical_long control address Link.dataSendCode data

theorem OnWire.linkFrame {frame : Frame} {bytes : Octets} (h : OnWire frame bytes) :
    Decoder.linkFrame bytes = .ok frame := by
  rw [Decoder.linkFrame, h.decode]

theorem OnWire.linkFrame_append {frame : Frame} {bytes rest : Octets} (h : OnWire frame bytes)
    (more : rest ≠ []) :
    Decoder.linkFrame (bytes ++ rest) =
      .error (.parse (toString rest.length ++ " trailing bytes after frame")) := by
  rw [Decoder.linkFrame, h.decode_append more]
  rfl

/-- **Decoding undoes encoding.** Every reader gives back the canonical form of the frame; only the
verified decoder minds what follows it. -/
theorem read_back {frame : Frame} {bytes : Octets} (packed : frame.encode = .ok bytes) :
    (∀ rest, parse (bytes ++ rest) = .ok (frame.canonical, rest)) ∧
      Decoder.linkFrame bytes = .ok frame.canonical ∧
      (∀ rest, rest ≠ [] → Decoder.linkFrame (bytes ++ rest) =
        .error (.parse (toString rest.length ++ " trailing bytes after frame"))) ∧
      (∀ rest, Progress.ofOctets (bytes ++ rest) = .complete) ∧
      (Built frame → frame.canonical = frame) := by
  have wire := encode_ok packed
  exact ⟨wire.parse, wire.linkFrame, fun _ more => wire.linkFrame_append more,
    Progress.complete_of_onWire wire, Built.canonical⟩

/-- A long frame without data and with a stale checksum comes back as a control frame. -/
theorem read_back_empty_long :
    (Frame.mk .long 0x53 0xFE 0x50 [] 7).encode =
        .ok [0x68, 3, 3, 0x68, 0x53, 0xFE, 0x50, 0xA1, 0x16] ∧
      (∀ rest, parse ([0x68, 3, 3, 0x68, 0x53, 0xFE, 0x50, 0xA1, 0x16] ++ rest) =
        .ok (⟨.control, 0x53, 0xFE, 0x50, [], 0xA1⟩, rest)) ∧
      Decoder.linkFrame [0x68, 3, 3, 0x68, 0x53, 0xFE, 0x50, 0xA1, 0x16] =
        .ok ⟨.control, 0x53, 0xFE, 0x50, [], 0xA1⟩ ∧
      ∀ rest, Progress.ofOctets ([0x68, 3, 3, 0x68, 0x53, 0xFE, 0x50, 0xA1, 0x16] ++ rest) =
        .complete := by
  have packed : (Frame.mk .long 0x53 0xFE 0x50 [] 7).encode =
      .ok [0x68, 3, 3, 0x68, 0x53, 0xFE, 0x50, 0xA1, 0x16] := rfl
  obtain ⟨parsed, decoded, _, complete, _⟩ := read_back packed
  exact ⟨packed, parsed, decoded, complete⟩

end Frame

end MeterBus
