import MeterBus.Proofs.Frame.Grammar
import MeterBus.Station

/-! # Which frames have a wire form

A frame is laid out unless it has data that its shape has no room for, and what is laid out is far
below the capacity of the transport. Two frames have the same wire form exactly if they are the same
in everything their shape carries.

* `Encodable`, `wireLength`: the frames with a wire form, and its length.
* `Alike`: frames that cannot be told apart on the wire.
* `encoded_exactly`: the main result.
-/
namespace MeterBus
set_option autoImplicit false

namespace Frame

/-! ## Frames with a wire form -/

/-- The shape of the frame has room for its data. -/
def Encodable (frame : Frame) : Prop :=
  match frame.type with
  | .ack | .short => True
  | .control => frame.data = []
  | .long => frame.data.length ≤ 252

def wireLength (frame : Frame) : Nat :=
  match frame.type with
  | .ack => 1
  | .short => 5
  | .control => 9
  | .long => 9 + frame.data.length

/-- The fault says what the shape of the frame has no room for. -/
def Overfull (frame : Frame) (fault : EncodeFault) : Prop :=
  (frame.type = .control ∧ frame.data ≠ [] ∧ fault = .dataInControl frame.data.length) ∨
    (frame.type = .long ∧ 252 < frame.data.length ∧ fault = .dataTooLong frame.data.length)

theorem layOutLong_fits {frame : Frame} (fits : frame.data.length ≤ 252) :
    ∃ bytes, frame.layOutLong = .ok bytes ∧ bytes.length = 9 + frame.data.length := by
  have room : frame.data.length + Link.minimumLength < 256 := by
    rw [Link.minimumLength]
    omega
  refine ⟨_, if_pos room, ?_⟩
  simp only [List.cons_append, List.length_cons, List.length_append, List.length_nil]
  omega

theorem layOutLong_overfull {frame : Frame} (unfit : 252 < frame.data.length) :
    frame.layOutLong = .error (.dataTooLong frame.data.length) := by
  refine if_neg ?_
  rw [Link.minimumLength]
  omega

theorem layOut_fits {frame : Frame} (fits : frame.Encodable) :
    ∃ bytes, frame.layOut = .ok bytes ∧ bytes.length = frame.wireLength := by
  unfold Encodable at fits
  unfold layOut wireLength
  cases type : frame.type with
  | ack | short => exact ⟨_, rfl, rfl⟩
  | control =>
    simp only [type] at fits
    have few : frame.data.length ≤ 252 := by simp only [fits, List.length_nil, Nat.zero_le]
    obtain ⟨bytes, laid, length⟩ := layOutLong_fits few
    refine ⟨bytes, ?_, ?_⟩
    · simpa only [fits, List.isEmpty_nil, if_true] using laid
    · simpa only [fits, List.length_nil] using length
  | long =>
    simp only [type] at fits
    exact layOutLong_fits fits

theorem layOut_overfull {frame : Frame} (unfit : ¬ frame.Encodable) :
    ∃ fault, frame.layOut = .error fault ∧ frame.Overfull fault := by
  unfold Encodable at unfit
  unfold layOut
  cases type : frame.type with
  | ack | short =>
    simp only [type] at unfit
    exact absurd trivial unfit
  | control =>
    simp only [type] at unfit
    have full : ¬ frame.data.isEmpty := fun empty => unfit (List.isEmpty_iff.mp empty)
    exact ⟨_, if_neg full, Or.inl ⟨type, unfit, rfl⟩⟩
  | long =>
    simp only [type, Nat.not_le] at unfit
    exact ⟨_, layOutLong_overfull unfit, Or.inr ⟨type, unfit, rfl⟩⟩

/-- The capacity of the transport is never what a frame fails at. -/
theorem encode_eq_layOut (frame : Frame) : frame.encode = frame.layOut := by
  cases laid : frame.layOut with
  | error fault => rw [encode, laid]
  | ok bytes =>
    have room : bytes.length ≤ Link.capacity :=
      Nat.le_trans (layOut_ok laid).length_le (by decide)
    rw [encode, laid]
    exact if_pos room

theorem encodable_iff (frame : Frame) : (∃ bytes, frame.encode = .ok bytes) ↔ frame.Encodable := by
  rw [encode_eq_layOut]
  constructor
  · rintro ⟨bytes, laid⟩
    by_cases fits : frame.Encodable
    · exact fits
    · obtain ⟨fault, failed, _⟩ := layOut_overfull fits
      exact nomatch laid.symm.trans failed
  · intro fits
    obtain ⟨bytes, laid, _⟩ := layOut_fits fits
    exact ⟨bytes, laid⟩

theorem encode_length {frame : Frame} {bytes : Octets} (packed : frame.encode = .ok bytes) :
    bytes.length = frame.wireLength := by
  obtain ⟨laid, packed', length⟩ := layOut_fits ((encodable_iff frame).mp ⟨bytes, packed⟩)
  rw [encode_eq_layOut, packed'] at packed
  rw [← Except.ok.inj packed, length]

theorem encode_error {frame : Frame} {fault : EncodeFault} (failed : frame.encode = .error fault) :
    frame.Overfull fault := by
  have unfit : ¬ frame.Encodable := by
    intro fits
    obtain ⟨bytes, packed⟩ := (encodable_iff frame).mpr fits
    exact nomatch failed.symm.trans packed
  obtain ⟨reason, failed', overfull⟩ := layOut_overfull unfit
  rw [encode_eq_layOut, failed'] at failed
  rwa [← Except.error.inj failed]

/-! ## Frames that cannot be told apart -/

/-- The shape is a control or a long frame, which have one layout. -/
def Wrapped (frame : Frame) : Prop := frame.type = .control ∨ frame.type = .long

/-- The two frames are the same in what their shape carries. -/
def Alike (frame other : Frame) : Prop :=
  (frame.type = .ack ∧ other.type = .ack) ∨
    (frame.type = .short ∧ other.type = .short ∧
      frame.control = other.control ∧ frame.address = other.address) ∨
    (frame.Wrapped ∧ other.Wrapped ∧ frame.control = other.control ∧
      frame.address = other.address ∧ frame.information = other.information ∧
      frame.data = other.data)

section

variable {frame other : Frame}

theorem canonical_ack (type : frame.type = .ack) : frame.canonical = ack := by
  rw [canonical, type]

theorem canonical_short (type : frame.type = .short) :
    frame.canonical = short frame.control frame.address := by
  rw [canonical, type]
  rfl

theorem canonical_wrapped (wrapped : frame.Wrapped) (fits : frame.Encodable) :
    frame.canonical = long frame.control frame.address frame.information frame.data := by
  unfold Encodable at fits
  unfold canonical long
  rcases wrapped with type | type
  · simp only [type] at fits ⊢
    rw [fits]
    rfl
  · rw [type]
    rfl

theorem shape_cases (frame : Frame) :
    frame.type = .ack ∨ frame.type = .short ∨ frame.Wrapped := by
  cases type : frame.type with
  | ack => exact Or.inl rfl
  | short => exact Or.inr (Or.inl rfl)
  | control => exact Or.inr (Or.inr (Or.inl type))
  | long => exact Or.inr (Or.inr (Or.inr type))

theorem canonical_eq_iff (fits : frame.Encodable) (fits' : other.Encodable) :
    frame.canonical = other.canonical ↔ frame.Alike other := by
  obtain ⟨ack, short⟩ := type_canonical frame
  obtain ⟨ack', short'⟩ := type_canonical other
  constructor
  · intro same
    rw [same] at ack short
    rcases shape_cases frame with type | type | wrapped
    · exact Or.inl ⟨type, ack'.mp (ack.mpr type)⟩
    · have type' := short'.mp (short.mpr type)
      rw [canonical_short type, canonical_short type'] at same
      obtain ⟨-, control, address, -⟩ := Frame.mk.inj same
      exact Or.inr (Or.inl ⟨type, type', control, address⟩)
    · have wrapped' : other.Wrapped := by
        rcases shape_cases other with type' | type' | wrapped'
        · rcases wrapped with type | type <;> exact nomatch type.symm.trans (ack.mp (ack'.mpr type'))
        · rcases wrapped with type | type <;>
            exact nomatch type.symm.trans (short.mp (short'.mpr type'))
        · exact wrapped'
      rw [canonical_wrapped wrapped fits, canonical_wrapped wrapped' fits'] at same
      obtain ⟨-, control, address, information, data, -⟩ := Frame.mk.inj same
      exact Or.inr (Or.inr ⟨wrapped, wrapped', control, address, information, data⟩)
  · rintro (⟨type, type'⟩ | ⟨type, type', control, address⟩ |
      ⟨wrapped, wrapped', control, address, information, data⟩)
    · rw [canonical_ack type, canonical_ack type']
    · rw [canonical_short type, canonical_short type', control, address]
    · rw [canonical_wrapped wrapped fits, canonical_wrapped wrapped' fits', control, address,
        information, data]

theorem encode_eq_iff (fits : frame.Encodable) (fits' : other.Encodable) :
    frame.encode = other.encode ↔ frame.canonical = other.canonical := by
  obtain ⟨bytes, packed⟩ := (encodable_iff frame).mpr fits
  obtain ⟨bytes', packed'⟩ := (encodable_iff other).mpr fits'
  have wire := encode_ok packed
  have wire' := encode_ok packed'
  constructor
  · intro same
    have one : bytes = bytes' := Except.ok.inj (packed.symm.trans (same.trans packed'))
    exact (wire.unique wire' (by rw [one] : bytes ++ [] = bytes' ++ [])).1
  · intro same
    rw [packed, packed', ← wire.encode, ← wire'.encode, same]

end

/-! ## The main result -/

/-- **Which frames are encoded, as how many bytes, and what these depend on.** Every other frame is
refused for what its shape has no room for, before a station so much as looks at its line; the
capacity of the transport is never what a frame fails at. -/
theorem encoded_exactly :
    (∀ frame : Frame, (∃ bytes, frame.encode = .ok bytes) ↔ frame.Encodable) ∧
      (∀ (frame : Frame) (bytes : Octets), frame.encode = .ok bytes →
        bytes.length = frame.wireLength) ∧
      (∀ (frame : Frame) (fault : EncodeFault), frame.encode = .error fault →
        frame.Overfull fault ∧ ∀ (station : Station) (adapter : Adapter),
          (station.send adapter frame).result = .error (.encode fault.message)) ∧
      (∀ (frame : Frame) (count : Nat), frame.encode = frame.layOut ∧
        frame.encode ≠ .error (.overCapacity count)) ∧
      ∀ frame other : Frame, frame.Encodable → other.Encodable →
        (frame.encode = other.encode ↔ frame.Alike other) := by
  refine ⟨encodable_iff, ?_, ?_, ?_, ?_⟩
  · exact fun frame bytes packed => encode_length packed
  · intro frame fault failed
    refine ⟨encode_error failed, fun station adapter => ?_⟩
    rw [Station.send, failed]
    rfl
  · refine fun frame count => ⟨encode_eq_layOut frame, fun failed => ?_⟩
    rcases encode_error failed with ⟨-, -, fault⟩ | ⟨-, -, fault⟩ <;> exact nomatch fault
  · exact fun frame other fits fits' =>
      (encode_eq_iff fits fits').trans (canonical_eq_iff fits fits')

/-- A long frame without data and a control frame with another checksum have the same nine bytes;
with 253 data bytes there is no wire form. -/
theorem encoded_exactly_empty :
    let long : Frame := ⟨.long, 0x53, 0xFE, 0x50, [], 7⟩
    let control : Frame := ⟨.control, 0x53, 0xFE, 0x50, [], 0xA1⟩
    let full : Frame := ⟨.long, 8, 1, 0x72, List.replicate 253 0, 0⟩
    (∃ bytes, long.encode = .ok bytes ∧ bytes.length = 9) ∧ long.encode = control.encode ∧
      full.encode = .error (.dataTooLong 253) := by
  intro long control full
  obtain ⟨encodable, length, failed, -, same⟩ := encoded_exactly
  have fits : long.Encodable := Nat.zero_le 252
  have count : full.data.length = 253 := List.length_replicate
  refine ⟨?_, (same long control fits rfl).mpr ?_, ?_⟩
  · obtain ⟨bytes, packed⟩ := (encodable long).mpr fits
    exact ⟨bytes, packed, length long bytes packed⟩
  · exact Or.inr (Or.inr ⟨Or.inr rfl, Or.inl rfl, rfl, rfl, rfl, rfl⟩)
  · cases packed : full.encode with
    | ok bytes =>
      have few : full.data.length ≤ 252 := (encodable full).mp ⟨bytes, packed⟩
      rw [count] at few
      exact absurd few (by decide)
    | error fault =>
      rcases (failed full fault packed).1 with ⟨type, -, -⟩ | ⟨-, -, reason⟩
      · exact nomatch type
      · rw [reason, count]

end Frame

end MeterBus
