import MeterBus.Frame

/-!
# How far a buffer is from a frame

A receiver learns the length of a frame only from the frame itself, so it asks after every read how
many bytes are still to come. `Progress.ofOctets` answers from the bytes received so far and never
asks for a byte behind the end of the frame.

* `Progress`: a frame is there, so many bytes are missing, or no frame can come of it.
* `Progress.ofShort`, `Progress.ofLong`: the answer behind each start byte.
-/

namespace MeterBus
set_option autoImplicit false

/-- What a buffer is on its way to. -/
inductive Progress where
  | complete
  | needMore (count : Nat)
  | malformed
  deriving DecidableEq, Repr

namespace Progress

/-- Progress of a short frame, from the bytes behind its start byte. -/
def ofShort : Octets → Progress
  | control :: address :: checksum :: stop :: _ =>
    if stop = Link.stop ∧ checksum = control + address then complete else malformed
  | rest => needMore (Link.shortLength - 1 - rest.length)

/-- The second start byte, the checksum of the `length` bytes behind it, and the stop byte are in
their places. -/
def bodyHolds (length : Nat) (rest : Octets) : Bool :=
  rest.take 1 == [Link.longStart] &&
    (rest.drop (1 + length)).take 2 == [Octets.total ((rest.drop 1).take length), Link.stop]

/-- Progress of a long frame whose length byte is `length`, from the bytes behind its header.
Nothing is judged before the last byte has arrived. -/
def ofBody (length : Nat) (rest : Octets) : Progress :=
  if rest.length < length + (Link.longOverhead - Link.longHeader) then
    needMore (length + (Link.longOverhead - Link.longHeader) - rest.length)
  else if bodyHolds length rest then complete
  else malformed

/-- Progress of a control or long frame, from the bytes behind its start byte. -/
def ofLong : Octets → Progress
  | first :: second :: rest =>
    if first = second ∧ Link.minimumLength ≤ first.toNat then ofBody first.toNat rest else malformed
  | rest => needMore (Link.longHeader - 1 - rest.length)

/-- How far `buffer` is from holding one complete frame. -/
def ofOctets : Octets → Progress
  | [] => needMore 1
  | start :: rest =>
    if start = Link.ackStart then complete
    else if start = Link.shortStart then ofShort rest
    else if start = Link.longStart then ofLong rest
    else malformed

end Progress

end MeterBus
