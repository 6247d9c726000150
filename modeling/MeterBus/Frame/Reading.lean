import MeterBus.Frame

/-!
# Reading frames

The grammar of a frame, read field by field. A reader answers with what it read and the bytes behind
it, or with a `Flaw`: what was wrong and the bytes that were still unread there.

* `Frame.parse`: the frame at the front of the input, with the checksum as it stands there.
* `Frame.decode`: the input is exactly one frame and its checksum holds.
* `Flaw`, `DecodeFault` and their wordings.
-/

namespace MeterBus
set_option autoImplicit false

/-! ## Flaws -/

inductive Flaw.Kind where
  /-- The input ended inside a field. -/
  | ended
  /-- Another byte than the one that has to stand here, or none at all. -/
  | mark
  /-- The two length bytes differ or count too little. -/
  | length
  deriving DecidableEq, Repr

/-- An objection and the bytes unread at that point. -/
structure Flaw where
  kind : Flaw.Kind
  rest : Octets
  deriving DecidableEq, Repr

def Flaw.Kind.code : Flaw.Kind → String
  | .ended => "Eof"
  | .mark => "Tag"
  | .length => "Verify"

def Flaw.message (flaw : Flaw) : String :=
  "Error(Error \x7b input: " ++ Octets.decimal flaw.rest ++ ", code: " ++ flaw.kind.code ++ " \x7d)"

namespace Frame

/-! ## Fields -/

def octet : Octets → Except Flaw (UInt8 × Octets)
  | [] => .error ⟨.ended, []⟩
  | byte :: rest => .ok (byte, rest)

/-- The byte `expected` and no other. -/
def mark (expected : UInt8) : Octets → Except Flaw Octets
  | [] => .error ⟨.mark, []⟩
  | byte :: rest => if byte = expected then .ok rest else .error ⟨.mark, byte :: rest⟩

/-- As many bytes as `count`, all or none. -/
def block (count : Nat) (input : Octets) : Except Flaw (Octets × Octets) :=
  if input.length < count then .error ⟨.ended, input⟩ else .ok (input.splitAt count)

/-! ## Frames -/

/-- A short frame behind its start byte. -/
def parseShort (input : Octets) : Except Flaw (Frame × Octets) := do
  let (control, input) ← octet input
  let (address, input) ← octet input
  let (checksum, input) ← octet input
  let input ← mark Link.stop input
  return (⟨.short, control, address, 0, [], checksum⟩, input)

/-- The part of a long frame behind its length bytes, which both say `length`. -/
def parseBody (length : Nat) (input : Octets) : Except Flaw (Frame × Octets) := do
  let input ← mark Link.longStart input
  let (control, input) ← octet input
  let (address, input) ← octet input
  let (information, input) ← octet input
  let (data, input) ← block (length - Link.minimumLength) input
  let (checksum, input) ← octet input
  let input ← mark Link.stop input
  let type := if length = Link.minimumLength then FrameType.control else FrameType.long
  return (⟨type, control, address, information, data, checksum⟩, input)

/-- A control or long frame behind its start byte. -/
def parseLong (input : Octets) : Except Flaw (Frame × Octets) := do
  let (first, input) ← octet input
  let (second, input) ← octet input
  if first = second ∧ Link.minimumLength ≤ first.toNat then parseBody first.toNat input
  else .error ⟨.length, input⟩

/-- The frame at the front of the input and the bytes behind it. The checksum is taken as it
stands. -/
def parse (input : Octets) : Except Flaw (Frame × Octets) := do
  let (start, input) ← octet input
  if start = Link.ackStart then return (ack, input)
  else if start = Link.shortStart then parseShort input
  else if start = Link.longStart then parseLong input
  else .error ⟨.mark, input⟩

/-- Why a buffer is not exactly one valid frame. -/
inductive DecodeFault where
  | flawed (flaw : Flaw)
  /-- So many bytes stand behind the frame. -/
  | trailing (count : Nat)
  | mismatch (sums : Mismatch)
  deriving DecidableEq, Repr

def Mismatch.message (sums : Mismatch) : String :=
  "Invalid checksum: expected " ++ toString sums.expected.toNat ++
    ", calculated " ++ toString sums.calculated.toNat

def DecodeFault.message : DecodeFault → String
  | .flawed flaw => flaw.message
  | .trailing n => toString n ++ " trailing bytes after frame"
  | .mismatch sums => sums.message

/-- The frame that `input` is, when it is exactly one frame whose checksum holds. -/
def decode (input : Octets) : Except DecodeFault Frame :=
  match parse input with
  | .error flaw => .error (.flawed flaw)
  | .ok (frame, rest) =>
    if rest.isEmpty then
      match frame.verify with
      | .error sums => .error (.mismatch sums)
      | .ok () => .ok frame
    else .error (.trailing rest.length)

end Frame

end MeterBus
