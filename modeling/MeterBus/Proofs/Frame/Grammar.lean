import MeterBus.Frame.Progress
import MeterBus.Frame.Reading
import MeterBus.Frame.Wire

/-! # The grammar of frames on the wire

One relation, `Frame.OnWire`, lists the frames that fit their shape together with their bytes.
Encoder, parser and incremental check are each tied to it once, so that every statement about two
of them goes through the grammar instead of unfolding both.

* `Frame.canonical`: the frame that fits its shape and has the same bytes.
* `encode_ok`: whatever is encoded is the canonical frame on the wire.
* `OnWire.layOut`, `OnWire.encode`: a frame on the wire is encoded as its bytes.
* `OnWire.parse`: what stands on the wire is read back, whatever follows it.
* `OnWire.unique`: two frames at the front of one input are one.
-/
namespace MeterBus
set_option autoImplicit false

namespace Frame

/-! ## Frames that fit their shape -/

/-- The frame as its wire form has it: fields that the shape does not carry are empty, a long frame
without data is a control frame, and the checksum is the sum of the fields. -/
def canonical (frame : Frame) : Frame :=
  match frame.type with
  | .ack => ack
  | .short => sealed { frame with information := 0, data := [] }
  | .control => sealed { frame with type := .control }
  | .long => sealed { frame with type := if frame.data.isEmpty then .control else .long }

/-- A control or long frame around its body, which is everything the length bytes count. -/
def envelope (body : Octets) : Octets :=
  Link.longStart :: body.length.toUInt8 :: body.length.toUInt8 :: Link.longStart ::
    (body ++ [Octets.total body, Link.stop])

/-- The same with any byte in place of the checksum. -/
def wrap (sum : UInt8) (body : Octets) : Octets :=
  Link.longStart :: body.length.toUInt8 :: body.length.toUInt8 :: Link.longStart ::
    (body ++ [sum, Link.stop])

theorem envelope_eq (body : Octets) : envelope body = wrap (Octets.total body) body := rfl

/-- The frames that fit their shape, each with its bytes. -/
inductive OnWire : Frame → Octets → Prop where
  | ack : OnWire ack [Link.ackStart]
  | short (control address : UInt8) :
    OnWire (short control address)
      [Link.shortStart, control, address, control + address, Link.stop]
  | long (control address information : UInt8) (data : Octets) (fits : data.length < 253) :
    OnWire (long control address information data)
      (envelope (control :: address :: information :: data))

theorem verify_sealed (frame : Frame) : (sealed frame).verify = .ok () := by
  have h : (sealed frame).checksum = (sealed frame).sum := rfl
  rw [verify, if_pos h]

theorem OnWire.verify {frame : Frame} {bytes : Octets} (h : OnWire frame bytes) :
    frame.verify = .ok () := by
  cases h with
  | ack => rfl
  | short control address => exact verify_sealed _
  | long control address information data fits => exact verify_sealed _

theorem OnWire.ne_nil {frame : Frame} {bytes : Octets} (h : OnWire frame bytes) : bytes ≠ [] := by
  cases h <;> exact List.cons_ne_nil _ _

theorem canonical_long (control address information : UInt8) (data : Octets) :
    (long control address information data).canonical = long control address information data := by
  cases data <;> rfl

theorem type_canonical (frame : Frame) :
    (frame.canonical.type = .ack ↔ frame.type = .ack) ∧
      (frame.canonical.type = .short ↔ frame.type = .short) := by
  unfold canonical
  cases type : frame.type with
  | ack | short | control => simp [ack, sealed]
  | long =>
    cases frame.data <;> simp [sealed]

/-- A long frame, field by field. -/
theorem long_eq (control address information : UInt8) (data : Octets) :
    long control address information data =
      ⟨if data.isEmpty then .control else .long, control, address, information, data,
        Octets.total (control :: address :: information :: data)⟩ := by
  cases data <;> rfl

/-! ## Encoding -/

/-- A frame that is laid out around a body is a long frame, or a control frame without data. -/
theorem layOutLong_ok {frame : Frame} {bytes : Octets} (h : frame.layOutLong = .ok bytes)
    (type : frame.type = .control ∨ frame.type = .long) :
    OnWire (long frame.control frame.address frame.information frame.data) bytes := by
  unfold layOutLong at h
  split at h
  case isFalse => exact nomatch h
  case isTrue fits =>
    obtain rfl := Except.ok.inj h
    have sum : frame.sum =
        Octets.total (frame.control :: frame.address :: frame.information :: frame.data) := by
      rcases type with type | type <;> rw [Frame.sum, type]
    rw [sum]
    have few : frame.data.length < 253 := by
      rw [Link.minimumLength] at fits
      omega
    exact OnWire.long _ _ _ _ few

theorem layOut_ok {frame : Frame} {bytes : Octets} (h : frame.layOut = .ok bytes) :
    OnWire frame.canonical bytes := by
  unfold layOut at h
  unfold canonical
  cases type : frame.type with
  | ack =>
    rw [type] at h
    obtain rfl := Except.ok.inj h
    exact OnWire.ack
  | short =>
    simp only [type] at h ⊢
    obtain rfl := Except.ok.inj h
    have sum : frame.sum = frame.control + frame.address := by rw [Frame.sum, type]
    rw [sum]
    exact OnWire.short frame.control frame.address
  | control =>
    simp only [type] at h ⊢
    split at h
    case isFalse => exact nomatch h
    case isTrue empty =>
      have wire := layOutLong_ok h (Or.inl type)
      rw [long, if_pos empty] at wire
      exact wire
  | long =>
    simp only [type] at h ⊢
    exact layOutLong_ok h (Or.inr type)

/-- **Whatever is encoded is the canonical frame on the wire.** -/
theorem encode_ok {frame : Frame} {bytes : Octets} (h : frame.encode = .ok bytes) :
    OnWire frame.canonical bytes := by
  unfold encode at h
  split at h
  case h_1 => exact nomatch h
  case h_2 laid eq =>
    split at h
    case isFalse => exact nomatch h
    case isTrue => exact Except.ok.inj h ▸ layOut_ok eq

theorem envelope_length (body : Octets) : (envelope body).length = body.length + 6 := by
  simp [envelope]

theorem OnWire.length_le {frame : Frame} {bytes : Octets} (h : OnWire frame bytes) :
    bytes.length ≤ 261 := by
  cases h with
  | ack | short => exact Nat.le_add_left _ _
  | long control address information data fits =>
    rw [envelope_length]
    simp only [List.length_cons]
    omega

/-- What fits its shape lays itself out. -/
theorem OnWire.layOut {frame : Frame} {bytes : Octets} (h : OnWire frame bytes) :
    frame.layOut = .ok bytes := by
  cases h with
  | ack | short => rfl
  | long control address information data fits =>
    have room : data.length + Link.minimumLength < 256 := by
      rw [Link.minimumLength]
      omega
    have laid : (Frame.long control address information data).layOutLong =
        .ok (envelope (control :: address :: information :: data)) := by
      cases data <;> exact if_pos room
    cases data <;> exact laid

theorem OnWire.encode {frame : Frame} {bytes : Octets} (h : OnWire frame bytes) :
    frame.encode = .ok bytes := by
  have room : bytes.length ≤ Link.capacity := Nat.le_trans h.length_le (by decide)
  rw [Frame.encode, h.layOut]
  exact if_pos room

/-! ## Parsing -/

theorem block_append (data rest : Octets) : block data.length (data ++ rest) = .ok (data, rest) := by
  have enough : ¬ (data ++ rest).length < data.length := by
    rw [List.length_append]
    omega
  rw [block, if_neg enough, List.splitAt_eq, List.take_left, List.drop_left]

theorem mark_cons (byte : UInt8) (rest : Octets) : mark byte (byte :: rest) = .ok rest :=
  if_pos rfl

/-- The parser behind the length bytes reads back a body of any three bytes and any data. -/
theorem parseBody_append (control address information sum : UInt8) (data rest : Octets) :
    parseBody (data.length + 3) (Link.longStart ::
        (control :: address :: information :: data ++ sum :: Link.stop :: rest)) =
      .ok (⟨if data.isEmpty then .control else .long, control, address, information, data, sum⟩,
        rest) := by
  have type : (if data.length + 3 = Link.minimumLength then FrameType.control else .long) =
      if data.isEmpty then .control else .long := by
    cases data <;> rfl
  have count : data.length + 3 - Link.minimumLength = data.length := Nat.add_sub_cancel _ _
  simp only [parseBody, List.cons_append, mark_cons, octet, count, block_append, type, bind,
    Except.bind, pure, Except.pure]

theorem toNat_length {body : Octets} (fits : body.length < 256) :
    body.length.toUInt8.toNat = body.length := by
  rw [Nat.toUInt8_eq, UInt8.toNat_ofNat']
  exact Nat.mod_eq_of_lt fits

theorem parse_longStart (input : Octets) : parse (Link.longStart :: input) = parseLong input := rfl

theorem parseLong_header (length : UInt8) (input : Octets) (least : 3 ≤ length.toNat) :
    parseLong (length :: length :: input) = parseBody length.toNat input :=
  if_pos ⟨rfl, least⟩

/-- A wrapped body is read back with whatever byte stands in place of its checksum. -/
theorem parse_wrap (control address information sum : UInt8) {data : Octets}
    (fits : data.length < 253) (rest : Octets) :
    parse (wrap sum (control :: address :: information :: data) ++ rest) =
      .ok (⟨if data.isEmpty then .control else .long, control, address, information, data, sum⟩,
        rest) := by
  have count : (control :: address :: information :: data).length.toUInt8.toNat =
      data.length + 3 := toNat_length (by simp only [List.length_cons]; omega)
  have body := parseBody_append control address information sum data rest
  simp only [wrap, List.cons_append, List.append_assoc, List.nil_append] at body ⊢
  rw [parse_longStart, parseLong_header _ _ (by omega), count, body]

/-- **What stands on the wire is read back, and what follows it is left.** -/
theorem OnWire.parse {frame : Frame} {bytes : Octets} (h : OnWire frame bytes) (rest : Octets) :
    parse (bytes ++ rest) = .ok (frame, rest) := by
  cases h with
  | ack => rfl
  | short control address => rfl
  | long control address information data fits =>
    rw [envelope_eq, parse_wrap _ _ _ _ fits, long_eq]

/-- A buffer that begins with a frame on the wire decodes exactly if nothing follows. -/
theorem OnWire.decode {frame : Frame} {bytes : Octets} (h : OnWire frame bytes) :
    decode bytes = .ok frame := by
  have parsed := h.parse []
  rw [List.append_nil] at parsed
  rw [Frame.decode, parsed]
  simp only [List.isEmpty_nil, if_true, h.verify]

theorem OnWire.decode_append {frame : Frame} {bytes rest : Octets} (h : OnWire frame bytes)
    (more : rest ≠ []) : Frame.decode (bytes ++ rest) = .error (.trailing rest.length) := by
  have isEmpty : ¬ rest.isEmpty := fun empty => more (List.isEmpty_iff.mp empty)
  rw [Frame.decode, h.parse rest]
  exact if_neg isEmpty

/-- Two frames on the wire at the front of one input are one. -/
theorem OnWire.unique {frame frame' : Frame} {bytes bytes' rest rest' : Octets}
    (h : OnWire frame bytes) (h' : OnWire frame' bytes') (same : bytes ++ rest = bytes' ++ rest') :
    frame = frame' ∧ rest = rest' := by
  have read := h.parse rest
  rw [same, h'.parse rest'] at read
  obtain ⟨frames, rests⟩ := Prod.mk.inj (Except.ok.inj read)
  exact ⟨frames.symm, rests.symm⟩

end Frame

end MeterBus
