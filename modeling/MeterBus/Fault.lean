import MeterBus.Frame.Reading

/-!
# Faults

Everything that can go wrong between a station and its meters, and how it is worded.

* `IoFault`: what the operating system, or a line in its place, objected to.
* `Fault`: the faults of the transport, `Fault.message` and `Fault.cause?`.
* `Fault.isSoft`: the two outcomes that only mean that nobody answered, or not in full.
-/

namespace MeterBus
set_option autoImplicit false

/-! ## Faults of the line -/

inductive IoFault.Kind where
  | notFound
  | permissionDenied
  | connectionRefused
  | brokenPipe
  | wouldBlock
  | invalidInput
  | invalidData
  | timedOut
  | writeZero
  | interrupted
  | unexpectedEnd
  | other
  deriving DecidableEq, Repr

/-- An objection of the line: its kind and its text. -/
structure IoFault where
  kind : IoFault.Kind
  text : String
  deriving DecidableEq, Repr

/-! ## Faults of the transport -/

/-- What an operation of the transport can fail with. -/
inductive Fault where
  | connect (device : String) (cause : IoFault)
  | unsupportedRate (rate : Nat)
  /-- The line refused to be configured or drained. -/
  | io (cause : IoFault)
  | notConnected
  | encode (reason : String)
  /-- The line took fewer bytes than the frame has. -/
  | shortWrite (written expected : Nat)
  | write (cause : IoFault)
  /-- The decoder was content without a single byte. -/
  | noData
  /-- The line fell silent inside a frame. -/
  | incomplete (received : Nat)
  | parse (reason : String)
  | receiveTimeout
  | read (cause : IoFault)
  /-- None of the attempts of a probe brought a frame. -/
  | noResponse (address : UInt8) (attempts : Nat)
  | checksum (sums : Frame.Mismatch)
  deriving DecidableEq, Repr

namespace Fault

def message : Fault → String
  | connect device cause => "Failed to open serial device " ++ device ++ ": " ++ cause.text
  | unsupportedRate rate => "Unsupported baud rate: " ++ toString rate
  | io cause => "Serial port error: " ++ cause.text
  | notConnected => "Serial line is not connected"
  | encode reason => "Failed to encode M-Bus frame: " ++ reason
  | shortWrite written expected =>
    "Failed to write frame: wrote " ++ toString written ++ " of " ++ toString expected ++ " bytes"
  | write cause => "Failed to write frame: " ++ cause.text
  | noData => "No data received"
  | incomplete received => "Incomplete M-Bus frame (" ++ toString received ++ " bytes received)"
  | parse reason => "Error parsing M-Bus frame: " ++ reason
  | receiveTimeout => "Timed out waiting for M-Bus frame"
  | read cause => "Failed to read from serial line: " ++ cause.text
  | noResponse address attempts =>
    "No response from address " ++ toString address.toNat ++ " after " ++ toString attempts ++
      " attempts"
  | checksum sums => sums.message

/-- The objection of the line below a fault. -/
def cause? : Fault → Option IoFault
  | connect _ cause | io cause | write cause | read cause => some cause
  | _ => none

/-- The outcomes to expect when nobody, or nobody in full, answers at an address. -/
def isSoft : Fault → Bool
  | incomplete _ | noResponse _ _ => true
  | _ => false

end Fault

end MeterBus
