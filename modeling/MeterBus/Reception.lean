import MeterBus.Decoder
import MeterBus.Hooks

/-!
# Reception

Receiving one frame from a line that delivers bytes in pieces of its own choosing. The loop starts
by asking for one byte and from then on asks for exactly what the decoder reports missing, so it
never takes a byte that belongs to the next frame. Three silent reads, a fault of the line, or a
decoder that wants more than fits end it.

* `Source`: a line that can be read.
* `gather`: the loop, for any source and any decoder.
* `receive`: the loop on an adapter, the observers, and the verdict on what was gathered.
-/

namespace MeterBus
set_option autoImplicit false

/-! ## Sources -/

/-- A line that can be read: `read line size` asks it for at most `size` bytes. -/
structure Source (σ : Type) where
  read : σ → Nat → Except IoFault Octets × σ
  read_le : ∀ line size bytes, (read line size).1 = .ok bytes → bytes.length ≤ size

def Adapter.source : Source Adapter where
  read := Adapter.read
  read_le adapter size bytes h := Adapter.take_le size adapter.incoming bytes h

namespace Reception

/-! ## The loop -/

inductive Ending where
  /-- The decoder was content. -/
  | complete
  /-- The decoder saw that no frame can come of the buffer. -/
  | malformed
  /-- The decoder wants more bytes than fit. -/
  | tooLarge
  | silent
  | failed (fault : IoFault)
  deriving DecidableEq, Repr

/-- What the loop leaves behind: the line, the bytes received, the buffers shown to the decoder with
the latest first, why it ended and what there is to note. -/
structure Gathered (σ : Type) where
  line : σ
  buffer : Octets
  past : List Octets
  ending : Ending
  notes : List Note := []

/-- The same with earlier notes in front. -/
def Gathered.noting {σ : Type} (notes : List Note) (gathered : Gathered σ) : Gathered σ :=
  { gathered with notes := notes ++ gathered.notes }

def tooLargeNote (wanted held : Nat) : Note :=
  .remark .warn ("Decoder asked for " ++ toString wanted ++ " more bytes beyond " ++
    toString held ++ ", giving up")

def silenceNote (silences held : Nat) : Note :=
  .remark .debug ("Read timeout " ++ toString silences ++ "/" ++ toString Link.silenceLimit ++
    " (" ++ toString held ++ " bytes so far)")

/-- Reads until the decoder is content, or there is a reason to give up. `silences` counts the
silent reads so far and `answer` is the last answer of the decoder. Every round either adds a byte
to a buffer with room for it or counts a silence, so the loop ends. -/
def gather {σ : Type} (source : Source σ) (decoder : Decoder) (line : σ) (buffer : Octets)
    (silences : Nat) (past : List Octets) (answer : Progress) : Gathered σ :=
  match answer with
  | .complete | .needMore 0 => { line, buffer, past, ending := .complete }
  | .malformed => { line, buffer, past, ending := .malformed }
  | .needMore (missing + 1) =>
    if Link.capacity - buffer.length < missing + 1 then
      { line, buffer, past, ending := .tooLarge,
        notes := [tooLargeNote (missing + 1) buffer.length] }
    else
      match source.read line (missing + 1) with
      | (.error fault, line) => { line, buffer, past, ending := .failed fault }
      | (.ok [], line) =>
        if silences + 1 < Link.silenceLimit then
          (gather source decoder line buffer (silences + 1) (buffer :: past)
            (decoder.progress past buffer)).noting
              [silenceNote (silences + 1) buffer.length, .shown buffer]
        else
          { line, buffer, past, ending := .silent,
            notes := [silenceNote (silences + 1) buffer.length] }
      | (.ok (byte :: bytes), line) =>
        let longer := buffer ++ byte :: bytes
        (gather source decoder line longer silences (longer :: past)
          (decoder.progress past longer)).noting [.shown longer]
termination_by (Link.capacity - buffer.length) + (Link.silenceLimit - silences)
decreasing_by
  · omega
  · simp only [List.length_append, List.length_cons]
    omega

/-- The loop from its start: nothing received, one byte wanted. -/
def start {σ : Type} (source : Source σ) (decoder : Decoder) (line : σ) : Gathered σ :=
  gather source decoder line [] 0 [] (.needMore 1)

/-! ## The verdict -/

structure Outcome where
  result : Except Fault Frame
  adapter : Adapter
  notes : List Note

/-- The verdict on an empty buffer. -/
def nothing (ending : Ending) : Except Fault Frame × List Note :=
  match ending with
  | .failed fault => (.error (.read fault), [])
  | .silent => (.error .receiveTimeout, [.remark .warn "Timeout waiting for M-Bus frame"])
  | _ => (.error .noData, [])

/-- The verdict on a buffer with bytes in it. Observers see it unless the line failed. -/
def something (hooks : Hooks) (decoder : Decoder) (gathered : Gathered Adapter) :
    Except Fault Frame × List Note :=
  let buffer := gathered.buffer
  let seen := hooks.fireRecv gathered.line buffer
  match gathered.ending with
  | .failed fault => (.error (.read fault), [])
  | .silent =>
    (.error (.incomplete buffer.length), seen ++
      [.remark .warn ("Timeout with incomplete frame (" ++ toString buffer.length ++ " bytes)")])
  | .malformed | .tooLarge =>
    (.error (.parse ("malformed frame data: " ++ Octets.hex buffer)), seen)
  | .complete => (decoder.complete gathered.past buffer, seen)

def receive (hooks : Hooks) (decoder : Decoder) (adapter : Adapter) : Outcome :=
  let gathered := start Adapter.source decoder adapter
  let (result, notes) :=
    if gathered.buffer.isEmpty then nothing gathered.ending
    else something hooks decoder gathered
  { result, adapter := gathered.line, notes := gathered.notes ++ notes }

end Reception

end MeterBus
