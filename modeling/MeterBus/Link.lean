/-!
# Link layer numbers

The marks, codes and limits of the M-Bus link layer (EN 13757-2), each named once.

* Delimiters: `ackStart`, `shortStart`, `longStart`, `stop`.
* Layout: `shortLength`, `longHeader`, `longOverhead`, `minimumLength`.
* Control and information codes.
* Limits of the transport: `capacity`, `silenceLimit`, `probeAttempts`.
-/

namespace MeterBus.Link
set_option autoImplicit false

/-! ## Delimiters -/

/-- The single byte of an acknowledgement. -/
def ackStart : UInt8 := 0xE5

/-- First byte of a short frame. -/
def shortStart : UInt8 := 0x10

/-- First byte of a control or long frame; it stands again behind the two length bytes. -/
def longStart : UInt8 := 0x68

/-- Last byte of every frame except the acknowledgement. -/
def stop : UInt8 := 0x16

/-! ## Layout -/

def shortLength : Nat := 5

/-- Bytes of a long frame that have to be there before its length is known. -/
def longHeader : Nat := 3

/-- Bytes of a long frame that its length byte does not count. -/
def longOverhead : Nat := 6

/-- The smallest length byte: control, address and control information without data. -/
def minimumLength : Nat := 3

/-! ## Codes -/

/-- Control code: reset the link of a slave. -/
def resetCode : UInt8 := 0x40

/-- Control code: request user data. -/
def requestCode : UInt8 := 0x5B

/-- Control code: a slave responds with user data. -/
def responseCode : UInt8 := 0x08

/-- The frame count bit of the control code. -/
def frameCountBit : UInt8 := 0x20

/-- Information code: data sent to a slave. -/
def dataSendCode : UInt8 := 0x51

/-- Information code: a response of variable structure. -/
def variableCode : UInt8 := 0x72

/-! ## Limits -/

/-- Bytes that one frame, sent or received, may occupy at most. -/
def capacity : Nat := 2048

/-- The silent read at which a reception gives up. -/
def silenceLimit : Nat := 3

/-- Receptions a probe attempts unless told otherwise. -/
def probeAttempts : Nat := 10

end MeterBus.Link
