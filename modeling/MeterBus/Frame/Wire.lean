import MeterBus.Frame

/-!
# The wire form of a frame

`Frame.encode` lays a frame out as bytes. The stored checksum plays no part: the one on the wire is
always the sum of the fields.

* `Frame.EncodeFault`: why a frame has no wire form, with its wording in `EncodeFault.message`.
* `Frame.layOut`: the bytes of each shape.
* `Frame.encode`: the same under the limit of `Link.capacity` bytes.
-/

namespace MeterBus.Frame
set_option autoImplicit false

inductive EncodeFault where
  /-- A control frame that carries this many data bytes. -/
  | dataInControl (count : Nat)
  /-- More data bytes than one length byte can count. -/
  | dataTooLong (count : Nat)
  /-- A wire form of this many bytes, above the capacity of the transport. -/
  | overCapacity (count : Nat)
  deriving DecidableEq, Repr

def EncodeFault.message : EncodeFault → String
  | .dataInControl n => "control frame carries " ++ toString n ++ " data bytes"
  | .dataTooLong n => toString n ++ " data bytes do not fit the length field"
  | .overCapacity n =>
    "packed frame of " ++ toString n ++ " bytes exceeds " ++ toString Link.capacity

/-- What the length bytes of a control or long frame say. -/
def lengthByte (frame : Frame) : UInt8 := (frame.data.length + Link.minimumLength).toUInt8

/-- Start, length twice, start, header, data, checksum, stop. -/
def layOutLong (frame : Frame) : Except EncodeFault Octets :=
  if frame.data.length + Link.minimumLength < 256 then
    .ok (Link.longStart :: frame.lengthByte :: frame.lengthByte :: Link.longStart ::
      frame.control :: frame.address :: frame.information :: frame.data ++ [frame.sum, Link.stop])
  else .error (.dataTooLong frame.data.length)

def layOut (frame : Frame) : Except EncodeFault Octets :=
  match frame.type with
  | .ack => .ok [Link.ackStart]
  | .short => .ok [Link.shortStart, frame.control, frame.address, frame.sum, Link.stop]
  | .control =>
    if frame.data.isEmpty then frame.layOutLong else .error (.dataInControl frame.data.length)
  | .long => frame.layOutLong

def encode (frame : Frame) : Except EncodeFault Octets :=
  match frame.layOut with
  | .error fault => .error fault
  | .ok bytes =>
    if bytes.length ≤ Link.capacity then .ok bytes else .error (.overCapacity bytes.length)

end MeterBus.Frame
