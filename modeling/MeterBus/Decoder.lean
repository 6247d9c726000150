import MeterBus.Fault
import MeterBus.Frame.Progress

/-!
# Decoders

A decoder drives a reception: after every read it is shown the bytes received so far and answers how
many are missing, and in the end it makes a frame of them. It may remember. Everything it can
remember is what it was shown before, so its answers are functions of that history and the buffer.

* `Decoder`: the two answers.
* `Decoder.link`: link-layer frames; it needs no memory.
* `Decoder.fixed`, `Decoder.scripted`: decoders for the bench.
-/

namespace MeterBus
set_option autoImplicit false

/-- What drives a reception. `past` holds the buffers shown before, the latest first. -/
structure Decoder where
  progress : (past : List Octets) → (buffer : Octets) → Progress
  complete : (past : List Octets) → (buffer : Octets) → Except Fault Frame

namespace Decoder

/-! ## Link-layer frames -/

/-- The frame a complete buffer holds, every objection to it being a parse fault. -/
def linkFrame (buffer : Octets) : Except Fault Frame :=
  match Frame.decode buffer with
  | .ok frame => .ok frame
  | .error fault => .error (.parse fault.message)

/-- Decodes the frames of the link layer. -/
def link : Decoder where
  progress _ buffer := Progress.ofOctets buffer
  complete _ buffer := linkFrame buffer

/-! ## Decoders for the bench -/

/-- The whole buffer as the data of a response, its first byte as the address. -/
def echo (buffer : Octets) : Frame :=
  Frame.long Link.responseCode (buffer.headD 0) Link.variableCode buffer

/-- Waits for a fixed number of bytes and echoes them. -/
def fixed (size : Nat) : Decoder where
  progress _ buffer :=
    if buffer.length < size then .needMore (size - buffer.length) else .complete
  complete _ buffer := .ok (echo buffer)

inductive Completion where
  | ack
  | echo
  | link
  | mismatch
  deriving DecidableEq, Repr

def Completion.frame (completion : Completion) (buffer : Octets) : Except Fault Frame :=
  match completion with
  | ack => .ok Frame.ack
  | echo => .ok (Decoder.echo buffer)
  | link => linkFrame buffer
  | mismatch => .error (.checksum ⟨1, 2⟩)

/-- Gives the listed answers one after another, whatever it is shown, and is content after them. -/
def scripted (answers : List Progress) (completion : Completion) : Decoder where
  progress past _ := answers.getD past.length .complete
  complete _ buffer := completion.frame buffer

end Decoder

end MeterBus
