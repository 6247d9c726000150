import MeterBus.Log
import MeterBus.Adapter

/-!
# Hooks

Observers of the frames that pass a station. A hook sees the adapter as it is at that moment and the
bytes of the frame, and answers with notes; it has no way to touch the adapter.

* `Note`: what an operation leaves for others to look at, in order.
* `Hooks`: an observer for sent and one for received frames, each optional.
* `dumpLine`, `Hooks.hexDump`: observers that write every frame to the log.
* `Hooks.recording`: observers that keep every frame.
-/

namespace MeterBus
set_option autoImplicit false

/-! ## Notes -/

/-- Which way a frame passed. -/
inductive Direction where
  | sent
  | received
  deriving DecidableEq, Repr

/-- What a recording observer keeps of a frame: its label, the bytes, and the adapter at that
moment. -/
structure Record where
  direction : Direction
  label : String
  bytes : Octets
  adapterOpen : Bool
  eventCount : Nat
  deriving DecidableEq, Repr

/-- What an operation leaves for others to look at. -/
inductive Note where
  | log (entry : Log.Entry)
  | record (record : Record)
  /-- The decoder was shown this buffer. -/
  | shown (buffer : Octets)
  deriving DecidableEq, Repr

namespace Note

def remark (severity : Log.Severity) (text : String) : Note := log ⟨severity, text⟩

def entry? : Note → Option Log.Entry
  | log entry => some entry
  | _ => none

def record? : Note → Option Record
  | record r => some r
  | _ => none

def shown? : Note → Option Octets
  | shown buffer => some buffer
  | _ => none

end Note

/-! ## Observers -/

abbrev Hook := Adapter → Octets → List Note

structure Hooks where
  send : Option Hook := none
  recv : Option Hook := none

/-- A number in decimal, with zeros in front of it up to `width` digits. -/
def padded (width n : Nat) : List Char :=
  let digits := Nat.toDigits 10 n
  List.replicate (width - digits.length) '0' ++ digits

/-- One line about a frame: direction, number of bytes in at least three digits, hexadecimal pairs.
The pairs are cut from the text of the whole frame. -/
def dumpLine (direction : String) (bytes : Octets) : String :=
  let pairs := Octets.pairs (Octets.ofText (Octets.hex bytes))
  direction ++ " (" ++ String.ofList (padded 3 bytes.length) ++ "): " ++
    " ".intercalate (pairs.map fun pair => (Octets.text? pair).getD "??")

namespace Hooks

def silent : Hooks := {}

/-- The observer that writes a dump line to the log. -/
def dump (direction : String) : Hook := fun _ bytes => [.remark .info (dumpLine direction bytes)]

/-- Both directions go to the log. -/
def hexDump : Hooks := ⟨some (dump "SEND"), some (dump "RECV")⟩

/-- The observer that keeps frames under a label. -/
def keep (direction : Direction) (label : String) : Hook := fun adapter bytes =>
  [.record ⟨direction, label, bytes, adapter.isOpen, adapter.past.length⟩]

/-- Both directions are kept under a label. -/
def recording (label : String) : Hooks := ⟨some (keep .sent label), some (keep .received label)⟩

/-- The notes on a sent frame. -/
def fireSend (hooks : Hooks) (adapter : Adapter) (bytes : Octets) : List Note :=
  match hooks.send with
  | none => []
  | some hook => hook adapter bytes

/-- The notes on a received frame. -/
def fireRecv (hooks : Hooks) (adapter : Adapter) (bytes : Octets) : List Note :=
  match hooks.recv with
  | none => []
  | some hook => hook adapter bytes

/-- Which observers are there. -/
def summary (hooks : Hooks) : String :=
  "EventHooks \x7b send: " ++ toString hooks.send.isSome ++
    ", recv: " ++ toString hooks.recv.isSome ++ " \x7d"

end Hooks

end MeterBus
