import MeterBus.Link
import MeterBus.Octets

/-!
# Frames

A link-layer frame as a value, independent of its bytes on the wire.

* `FrameType` and `Frame`: the four shapes and their fields. The fields need not fit the shape; what
  the shape does not carry is ignored by everything that looks at the wire.
* `Frame.ack`, `Frame.short`, `Frame.long` and the requests built from them: frames that do fit.
* `Frame.sum`: the checksum the fields ask for.
* `Frame.verify`: the stored checksum is that sum.
-/

namespace MeterBus
set_option autoImplicit false

inductive FrameType where
  | ack
  | short
  | control
  | long
  deriving DecidableEq, Repr

/-- A frame: its shape, its header bytes, the data behind them and a checksum. -/
structure Frame where
  type : FrameType
  control : UInt8
  address : UInt8
  information : UInt8
  data : Octets
  checksum : UInt8
  deriving DecidableEq, Repr

namespace Frame

/-! ## Checksum -/

/-- The checksum of a frame of this shape with these fields. -/
def sum (frame : Frame) : UInt8 :=
  match frame.type with
  | .ack => 0
  | .short => frame.control + frame.address
  | .control | .long =>
    Octets.total (frame.control :: frame.address :: frame.information :: frame.data)

/-- The frame with the checksum its fields ask for. -/
def sealed (frame : Frame) : Frame := { frame with checksum := frame.sum }

/-- A stored checksum that is not the sum of the fields. -/
structure Mismatch where
  expected : UInt8
  calculated : UInt8
  deriving DecidableEq, Repr

/-- Accepts a frame whose stored checksum is the sum of its fields. -/
def verify (frame : Frame) : Except Mismatch Unit :=
  if frame.checksum = frame.sum then .ok () else .error ⟨frame.checksum, frame.sum⟩

/-! ## Frames that fit their shape -/

def ack : Frame := ⟨.ack, 0, 0, 0, [], 0⟩

def short (control address : UInt8) : Frame := sealed ⟨.short, control, address, 0, [], 0⟩

/-- A long frame, or a control frame when there is no data. -/
def long (control address information : UInt8) (data : Octets) : Frame :=
  sealed ⟨if data.isEmpty then .control else .long, control, address, information, data, 0⟩

/-- Resets the link of the slave at `address`. -/
def linkReset (address : UInt8) : Frame := short Link.resetCode address

/-- Asks the slave at `address` for its user data. -/
def dataRequest (address : UInt8) : Frame := short Link.requestCode address

/-- Asks for user data with the frame count bit set, which some meters take as the sign to answer at
a higher rate. -/
def wakeRequest (address : UInt8) : Frame := short (Link.requestCode ||| Link.frameCountBit) address

/-- Sends application data to the slave at `address`. -/
def sendData (control address : UInt8) (data : Octets) : Frame :=
  long control address Link.dataSendCode data

end Frame

end MeterBus
