import MeterBus.Proofs.Frame.RoundTrip
import MeterBus.Proofs.Results

/-! # What the readers accept

The parser against the incremental check. A buffer that the parser reads begins with a frame whose
marks and lengths are right and whose checksum may be any byte (`Framed`), and of such a buffer the
check says at once whether the checksum is the sum (`Framed.progress`). So the two agree on every
buffer, and what the verified decoder accepts is one frame on the wire and nothing else, which
leaves every frame a single wire form.

* `Framed`, `parse_ok`: the bytes behind a parsed frame.
* `linkFrame_ok_iff`: the verified decoder accepts the grammar.
* `one_wire_form`, `readers_agree`: the main results.
-/
namespace MeterBus
set_option autoImplicit false

namespace Frame

/-! ## The bytes behind a parsed frame -/

/-- The frames that the parser reads, each with its bytes. -/
inductive Framed : Frame → Octets → Prop where
  | ack : Framed ack [Link.ackStart]
  | short (control address sum : UInt8) :
    Framed ⟨.short, control, address, 0, [], sum⟩
      [Link.shortStart, control, address, sum, Link.stop]
  | long (control address information sum : UInt8) (data : Octets) (fits : data.length < 253) :
    Framed ⟨if data.isEmpty then .control else .long, control, address, information, data, sum⟩
      (wrap sum (control :: address :: information :: data))

theorem octet_ok {input rest : Octets} {byte : UInt8} (h : octet input = .ok (byte, rest)) :
    input = byte :: rest := by
  cases input with
  | nil => exact nomatch h
  | cons first more =>
    obtain ⟨rfl, rfl⟩ := Prod.mk.inj (Except.ok.inj h)
    rfl

theorem mark_ok {expected : UInt8} {input rest : Octets} (h : mark expected input = .ok rest) :
    input = expected :: rest := by
  cases input with
  | nil => exact nomatch h
  | cons first more =>
    simp only [mark] at h
    split at h
    case isTrue same => rw [same, Except.ok.inj h]
    case isFalse => exact nomatch h

theorem block_ok {count : Nat} {input data rest : Octets}
    (h : block count input = .ok (data, rest)) :
    input = data ++ rest ∧ data.length = count := by
  unfold block at h
  split at h
  case isTrue => exact nomatch h
  case isFalse enough =>
    rw [List.splitAt_eq] at h
    obtain ⟨rfl, rfl⟩ := Prod.mk.inj (Except.ok.inj h)
    refine ⟨(List.take_append_drop count input).symm, ?_⟩
    rw [List.length_take]
    omega

theorem parseShort_ok {input rest : Octets} {frame : Frame}
    (h : parseShort input = .ok (frame, rest)) :
    ∃ bytes, Framed frame bytes ∧ Link.shortStart :: input = bytes ++ rest := by
  unfold parseShort at h
  obtain ⟨⟨control, input₁⟩, read₁, h⟩ := bind_ok h
  obtain ⟨⟨address, input₂⟩, read₂, h⟩ := bind_ok h
  obtain ⟨⟨sum, input₃⟩, read₃, h⟩ := bind_ok h
  obtain ⟨input₄, read₄, h⟩ := bind_ok h
  obtain ⟨rfl, rfl⟩ := Prod.mk.inj (Except.ok.inj h)
  refine ⟨_, Framed.short control address sum, ?_⟩
  rw [octet_ok read₁, octet_ok read₂, octet_ok read₃, mark_ok read₄]
  rfl

theorem parseBody_ok {length : UInt8} {input rest : Octets} {frame : Frame}
    (least : 3 ≤ length.toNat) (h : parseBody length.toNat input = .ok (frame, rest)) :
    ∃ bytes, Framed frame bytes ∧ Link.longStart :: length :: length :: input = bytes ++ rest := by
  unfold parseBody at h
  obtain ⟨input₁, read₁, h⟩ := bind_ok h
  obtain ⟨⟨control, input₂⟩, read₂, h⟩ := bind_ok h
  obtain ⟨⟨address, input₃⟩, read₃, h⟩ := bind_ok h
  obtain ⟨⟨information, input₄⟩, read₄, h⟩ := bind_ok h
  obtain ⟨⟨data, input₅⟩, read₅, h⟩ := bind_ok h
  obtain ⟨⟨sum, input₆⟩, read₆, h⟩ := bind_ok h
  obtain ⟨input₇, read₇, h⟩ := bind_ok h
  obtain ⟨rfl, rfl⟩ := Prod.mk.inj (Except.ok.inj h)
  obtain ⟨split, count⟩ := block_ok read₅
  have most : length.toNat < 256 := length.toNat_lt
  rw [Link.minimumLength] at count
  have fits : data.length < 253 := by omega
  have type : (if length.toNat = Link.minimumLength then FrameType.control else .long) =
      if data.isEmpty then .control else .long := by
    have empty : (length.toNat = Link.minimumLength) = (data.isEmpty = true) := by
      rw [List.isEmpty_iff, ← List.length_eq_zero_iff, Link.minimumLength, eq_iff_iff]
      omega
    simp only [empty]
  have byte : (control :: address :: information :: data).length.toUInt8 = length := by
    have all : (control :: address :: information :: data).length = length.toNat := by
      simp only [List.length_cons]
      omega
    rw [all, Nat.toUInt8_eq, UInt8.ofNat_toNat]
  refine ⟨_, type ▸ Framed.long control address information sum data fits, ?_⟩
  rw [wrap, byte, mark_ok read₁, octet_ok read₂, octet_ok read₃, octet_ok read₄, split,
    octet_ok read₆, mark_ok read₇]
  simp only [List.cons_append, List.append_assoc, List.nil_append]

theorem parseLong_ok {input rest : Octets} {frame : Frame}
    (h : parseLong input = .ok (frame, rest)) :
    ∃ bytes, Framed frame bytes ∧ Link.longStart :: input = bytes ++ rest := by
  unfold parseLong at h
  obtain ⟨⟨first, input₁⟩, read₁, h⟩ := bind_ok h
  obtain ⟨⟨second, input₂⟩, read₂, h⟩ := bind_ok h
  simp only at h
  split at h
  case isFalse => exact nomatch h
  case isTrue header =>
    obtain ⟨rfl, least⟩ := header
    rw [octet_ok read₁, octet_ok read₂]
    exact parseBody_ok least h

/-- A parsed frame is its bytes, and what follows them is what was left. -/
theorem parse_ok {input rest : Octets} {frame : Frame} (h : parse input = .ok (frame, rest)) :
    ∃ bytes, Framed frame bytes ∧ input = bytes ++ rest := by
  unfold parse at h
  obtain ⟨⟨start, input₁⟩, read, h⟩ := bind_ok h
  rw [octet_ok read]
  simp only at h
  split at h
  case isTrue ack =>
    obtain ⟨rfl, rfl⟩ := Prod.mk.inj (Except.ok.inj h)
    exact ⟨_, Framed.ack, by rw [ack]; rfl⟩
  case isFalse =>
    split at h
    case isTrue short =>
      rw [short]
      exact parseShort_ok h
    case isFalse =>
      split at h
      case isTrue long =>
        rw [long]
        exact parseLong_ok h
      case isFalse => exact nomatch h

/-! ## The check on a parsed frame -/

theorem verify_ok_iff (frame : Frame) : frame.verify = .ok () ↔ frame.checksum = frame.sum := by
  unfold verify
  split
  case isTrue same => simp only [same]
  case isFalse other => simp only [other, reduceCtorEq]

theorem verify_error {frame : Frame} (h : frame.checksum ≠ frame.sum) :
    frame.verify = .error ⟨frame.checksum, frame.sum⟩ := if_neg h

theorem sum_body (control address information sum : UInt8) (data : Octets) :
    Frame.sum ⟨if data.isEmpty then .control else .long, control, address, information, data, sum⟩ =
      Octets.total (control :: address :: information :: data) := by
  cases data <;> rfl

theorem Framed.onWire {frame : Frame} {bytes : Octets} (h : Framed frame bytes)
    (verified : frame.checksum = frame.sum) : OnWire frame bytes := by
  cases h with
  | ack => exact OnWire.ack
  | short control address sum =>
    obtain rfl : sum = control + address := verified
    exact OnWire.short control address
  | long control address information sum data fits =>
    rw [sum_body] at verified
    obtain rfl : sum = _ := verified
    rw [← long_eq]
    exact OnWire.long control address information data fits

/-- Of a frame in its marks and lengths the check judges the checksum alone. -/
theorem Framed.progress {frame : Frame} {bytes : Octets} (h : Framed frame bytes) (rest : Octets) :
    Progress.ofOctets (bytes ++ rest) =
      if frame.checksum = frame.sum then .complete else .malformed := by
  cases h with
  | ack => rfl
  | short control address sum =>
    show (if Link.stop = Link.stop ∧ sum = control + address then Progress.complete
      else .malformed) =
      if sum = control + address then .complete else .malformed
    simp only [true_and]
  | long control address information sum data fits =>
    rw [sum_body, Progress.ofOctets_wrap]
    · simp only [List.length_cons]
      omega
    · simp only [List.length_cons]
      omega

theorem progress_of_parse {input rest : Octets} {frame : Frame}
    (h : parse input = .ok (frame, rest)) :
    Progress.ofOctets input = if frame.checksum = frame.sum then .complete else .malformed := by
  obtain ⟨bytes, framed, rfl⟩ := parse_ok h
  exact framed.progress rest

/-! ## The verified decoder -/

theorem decode_ok {bytes : Octets} {frame : Frame} (h : decode bytes = .ok frame) :
    OnWire frame bytes := by
  unfold decode at h
  split at h
  case h_1 => exact nomatch h
  case h_2 read rest parsed =>
    obtain ⟨front, framed, rfl⟩ := parse_ok parsed
    split at h
    case isFalse => exact nomatch h
    case isTrue empty =>
      split at h
      case h_1 => exact nomatch h
      case h_2 verified =>
        obtain rfl := Except.ok.inj h
        rw [List.isEmpty_iff.mp empty, List.append_nil]
        exact framed.onWire ((verify_ok_iff read).mp verified)

theorem linkFrame_ok_iff (bytes : Octets) (frame : Frame) :
    Decoder.linkFrame bytes = .ok frame ↔ OnWire frame bytes := by
  constructor
  · intro h
    unfold Decoder.linkFrame at h
    split at h
    case h_1 decoded => exact Except.ok.inj h ▸ decode_ok decoded
    case h_2 => exact nomatch h
  · intro wire
    exact wire.linkFrame

theorem linkFrame_error {bytes : Octets} (h : ¬ ∃ frame, Decoder.linkFrame bytes = .ok frame) :
    ∃ reason, Decoder.linkFrame bytes = .error (.parse reason) := by
  unfold Decoder.linkFrame at h ⊢
  split
  case h_1 frame decoded => exact absurd ⟨frame, by rw [decoded]⟩ h
  case h_2 fault _ => exact ⟨fault.message, rfl⟩

/-- **Encoding undoes decoding, so a frame has one wire form.** The verified decoder accepts what
the encoder can produce and nothing else, and never the same frame from two inputs. -/
theorem one_wire_form :
    (∀ bytes frame, Decoder.linkFrame bytes = .ok frame → frame.encode = .ok bytes) ∧
      (∀ bytes, (∃ frame, Decoder.linkFrame bytes = .ok frame) ↔
        ∃ frame : Frame, frame.encode = .ok bytes) ∧
      ∀ bytes bytes' frame, Decoder.linkFrame bytes = .ok frame →
        Decoder.linkFrame bytes' = .ok frame → bytes = bytes' := by
  have undone : ∀ bytes frame, Decoder.linkFrame bytes = .ok frame → frame.encode = .ok bytes := by
    intro bytes frame decoded
    exact ((linkFrame_ok_iff bytes frame).mp decoded).encode
  refine ⟨undone, fun bytes => ⟨?_, ?_⟩, ?_⟩
  · rintro ⟨frame, decoded⟩
    exact ⟨frame, undone bytes frame decoded⟩
  · rintro ⟨frame, packed⟩
    exact ⟨frame.canonical, (encode_ok packed).linkFrame⟩
  · intro bytes bytes' frame decoded decoded'
    have same := (undone bytes frame decoded).symm.trans (undone bytes' frame decoded')
    exact Except.ok.inj same

theorem one_wire_form_long :
    Decoder.linkFrame [0x68, 4, 4, 0x68, 8, 1, 0x72, 0xFF, 0x7A, 0x16] =
        .ok ⟨.long, 8, 1, 0x72, [0xFF], 0x7A⟩ ∧
      (Frame.mk .long 8 1 0x72 [0xFF] 0x7A).encode =
        .ok [0x68, 4, 4, 0x68, 8, 1, 0x72, 0xFF, 0x7A, 0x16] ∧
      ∀ bytes, Decoder.linkFrame bytes = .ok ⟨.long, 8, 1, 0x72, [0xFF], 0x7A⟩ →
        bytes = [0x68, 4, 4, 0x68, 8, 1, 0x72, 0xFF, 0x7A, 0x16] := by
  have decoded : Decoder.linkFrame [0x68, 4, 4, 0x68, 8, 1, 0x72, 0xFF, 0x7A, 0x16] =
      .ok ⟨.long, 8, 1, 0x72, [0xFF], 0x7A⟩ := rfl
  exact ⟨decoded, one_wire_form.1 _ _ decoded,
    fun bytes other => one_wire_form.2.2 bytes _ _ other decoded⟩

/-! ## Parser and check -/

/-- How many bytes the frame at the front of a buffer has, going by its start byte and, behind a
long start, by its length byte. -/
def extent : Octets → Nat
  | [] => 0
  | start :: rest =>
    if start = Link.ackStart then 1
    else if start = Link.shortStart then Link.shortLength
    else (rest.headD 0).toNat + Link.longOverhead

theorem OnWire.extent_append {frame : Frame} {bytes : Octets} (h : OnWire frame bytes)
    (rest : Octets) : extent (bytes ++ rest) = bytes.length := by
  cases h with
  | ack => rfl
  | short control address => rfl
  | long control address information data fits =>
    have count : (control :: address :: information :: data).length.toUInt8.toNat =
        (control :: address :: information :: data).length :=
      toNat_length (by simp only [List.length_cons]; omega)
    rw [envelope_length, ← count]
    rfl

theorem complete_iff_parse (buffer : Octets) :
    Progress.ofOctets buffer = .complete ↔
      ∃ frame rest, parse buffer = .ok (frame, rest) ∧ frame.verify = .ok () := by
  constructor
  · intro complete
    obtain ⟨frame, bytes, tail, wire, rfl⟩ := Progress.onWire_of_complete complete
    exact ⟨frame, tail, wire.parse tail, wire.verify⟩
  · rintro ⟨frame, rest, parsed, verified⟩
    rw [progress_of_parse parsed]
    exact if_pos ((verify_ok_iff frame).mp verified)

theorem linkFrame_iff_complete (buffer : Octets) :
    (∃ frame, Decoder.linkFrame buffer = .ok frame) ↔
      Progress.ofOctets buffer = .complete ∧ buffer.length ≤ extent buffer := by
  simp only [linkFrame_ok_iff]
  constructor
  · rintro ⟨frame, wire⟩
    have complete := Progress.complete_of_onWire wire []
    have all := wire.extent_append []
    rw [List.append_nil] at complete all
    exact ⟨complete, Nat.le_of_eq all.symm⟩
  · rintro ⟨complete, within⟩
    obtain ⟨frame, bytes, tail, wire, rfl⟩ := Progress.onWire_of_complete complete
    rw [wire.extent_append, List.length_append] at within
    have none : tail = [] := List.eq_nil_of_length_eq_zero (by omega)
    rw [none, List.append_nil]
    exact ⟨frame, wire⟩

theorem parse_of_malformed {buffer : Octets} (h : Progress.ofOctets buffer = .malformed)
    (more : Octets) :
    (∃ flaw, parse (buffer ++ more) = .error flaw) ∨
      ∃ frame rest sums, parse (buffer ++ more) = .ok (frame, rest) ∧
        frame.verify = .error sums := by
  cases parsed : parse (buffer ++ more) with
  | error flaw => exact Or.inl ⟨flaw, rfl⟩
  | ok read =>
    have judged := progress_of_parse parsed
    rw [Progress.malformed_append h] at judged
    have differs : read.1.checksum ≠ read.1.sum := by
      intro same
      rw [if_pos same] at judged
      exact nomatch judged
    exact Or.inr ⟨read.1, read.2, _, rfl, verify_error differs⟩

theorem parse_of_needMore {buffer : Octets} {n : Nat}
    (h : Progress.ofOctets buffer = .needMore n) : ∃ flaw, parse buffer = .error flaw := by
  cases parsed : parse buffer with
  | error flaw => exact ⟨flaw, rfl⟩
  | ok read =>
    have judged := progress_of_parse parsed
    rw [h] at judged
    split at judged <;> exact nomatch judged

/-- **The incremental check and the parser agree on every buffer.** The check is content exactly if
the parser reads a frame whose checksum holds; the decoder then accepts if nothing follows the
frame, and objects to everything else; a buffer that is given up stays unreadable or corrupt
whatever comes, and one that wants more cannot be parsed yet. -/
theorem readers_agree (buffer : Octets) :
    (Progress.ofOctets buffer = .complete ↔
        ∃ frame rest, parse buffer = .ok (frame, rest) ∧ frame.verify = .ok ()) ∧
      ((∃ frame, Decoder.linkFrame buffer = .ok frame) ↔
        Progress.ofOctets buffer = .complete ∧ buffer.length ≤ extent buffer) ∧
      ((¬ ∃ frame, Decoder.linkFrame buffer = .ok frame) →
        ∃ reason, Decoder.linkFrame buffer = .error (.parse reason)) ∧
      (Progress.ofOctets buffer = .malformed → ∀ more,
        (∃ flaw, parse (buffer ++ more) = .error flaw) ∨
          ∃ frame rest sums, parse (buffer ++ more) = .ok (frame, rest) ∧
            frame.verify = .error sums) ∧
      ∀ n, Progress.ofOctets buffer = .needMore n → ∃ flaw, parse buffer = .error flaw := by
  refine ⟨complete_iff_parse buffer, linkFrame_iff_complete buffer, linkFrame_error, ?_, ?_⟩
  · intro malformed more
    exact parse_of_malformed malformed more
  · intro n missing
    exact parse_of_needMore missing

/-- A short frame with a wrong checksum is parsed, but its checksum is refused whatever follows. -/
theorem readers_agree_mismatch :
    Progress.ofOctets [0x10, 0x5B, 1, 0x5D, 0x16] = .malformed ∧
      (∀ more, (∃ flaw, parse ([0x10, 0x5B, 1, 0x5D, 0x16] ++ more) = .error flaw) ∨
        ∃ frame rest sums, parse ([0x10, 0x5B, 1, 0x5D, 0x16] ++ more) = .ok (frame, rest) ∧
          frame.verify = .error sums) ∧
      Progress.ofOctets [0x10, 0x5B] = .needMore 3 ∧
      ∃ flaw, parse [0x10, 0x5B] = .error flaw := by
  have malformed : Progress.ofOctets [0x10, 0x5B, 1, 0x5D, 0x16] = .malformed := rfl
  have missing : Progress.ofOctets [0x10, 0x5B] = .needMore 3 := rfl
  exact ⟨malformed, (readers_agree _).2.2.2.1 malformed, missing,
    (readers_agree _).2.2.2.2 3 missing⟩

end Frame

end MeterBus
