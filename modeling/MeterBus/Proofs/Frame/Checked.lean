import MeterBus.Proofs.Frame.Completion
import MeterBus.Decoder

/-! # The readers inside their buffer

The incremental check and the parser once more, on a buffer that is looked at by position: every
byte, every slice, every difference and every sum is checked when it is evaluated, and the first one
out of range ends the computation with an `Overrun`. Both come to the answers of the readers on
lists, so on no buffer is anything out of range.

* `Overrun`, `Checked`: what an access can fail with.
* `Checked.progress`, `Checked.parse`, `Checked.linkFrame`: the readers by position.
* `Agrees`: a checked reader that comes to the answer of a plain one.
* `never_out_of_range`: the main result.
-/
namespace MeterBus
set_option autoImplicit false

/-- An access out of range. -/
inductive Overrun where
  | byte (position length : Nat)
  | slice (first stop length : Nat)
  | difference (left right : Nat)
  | sum (left right : Nat)
  deriving DecidableEq, Repr

/-- A computation that ends at the first access out of range. -/
abbrev Checked (α : Type) := Except Overrun α

namespace Checked

/-! ## Accesses -/

def byteAt (buffer : Octets) (position : Nat) : Checked UInt8 :=
  match buffer[position]? with
  | some byte => .ok byte
  | none => .error (.byte position buffer.length)

/-- The bytes from `first` on and in front of `stop`. -/
def slice (buffer : Octets) (first stop : Nat) : Checked Octets :=
  if first ≤ stop ∧ stop ≤ buffer.length then .ok ((buffer.take stop).drop first)
  else .error (.slice first stop buffer.length)

def minus (left right : Nat) : Checked Nat :=
  if right ≤ left then .ok (left - right) else .error (.difference left right)

/-- A sum that fits an address, of which there are none with fewer than sixteen bits. -/
def plus (left right : Nat) : Checked Nat :=
  if left + right < 65536 then .ok (left + right) else .error (.sum left right)

theorem byteAt_eq_ok (buffer : Octets) (position : Nat) (byte : UInt8) :
    byteAt buffer position = .ok byte ↔ buffer[position]? = some byte := by
  unfold byteAt
  cases buffer[position]? with
  | none => simp only [reduceCtorEq]
  | some found => simp only [Except.ok.injEq, Option.some.injEq]

theorem slice_ok {buffer : Octets} {first stop : Nat} (order : first ≤ stop)
    (inside : stop ≤ buffer.length) :
    slice buffer first stop = .ok ((buffer.take stop).drop first) := if_pos ⟨order, inside⟩

theorem minus_ok {left right : Nat} (least : right ≤ left) : minus left right = .ok (left - right) :=
  if_pos least

theorem plus_ok {left right : Nat} (small : left + right < 65536) :
    plus left right = .ok (left + right) := if_pos small

/-! ## The incremental check -/

def progressShort (buffer : Octets) : Checked Progress :=
  if buffer.length < Link.shortLength then do
    return .needMore (← minus Link.shortLength buffer.length)
  else do
    let stop ← byteAt buffer 4
    if stop ≠ Link.stop then return .malformed
    else
      let checksum ← byteAt buffer 3
      let control ← byteAt buffer 1
      let address ← byteAt buffer 2
      if checksum ≠ control + address then return .malformed else return .complete

/-- The verdict on a long frame of `total` bytes, `length` of which are its body. -/
def verdictLong (buffer : Octets) (length total : Nat) : Checked Progress := do
  let body ← slice buffer 4 (← plus 4 length)
  let mark ← byteAt buffer 3
  if mark ≠ Link.longStart then return .malformed
  else
    let stop ← byteAt buffer (← minus total 1)
    if stop ≠ Link.stop then return .malformed
    else
      let checksum ← byteAt buffer (← minus total 2)
      if checksum ≠ Octets.total body then return .malformed else return .complete

def progressBody (buffer : Octets) (length : Nat) : Checked Progress := do
  let total ← plus length Link.longOverhead
  if buffer.length < total then return .needMore (← minus total buffer.length)
  else verdictLong buffer length total

def progressLong (buffer : Octets) : Checked Progress :=
  if buffer.length < Link.longHeader then do
    return .needMore (← minus Link.longHeader buffer.length)
  else do
    let first ← byteAt buffer 1
    let second ← byteAt buffer 2
    if first ≠ second ∨ first.toNat < Link.minimumLength then return .malformed
    else progressBody buffer first.toNat

def progress (buffer : Octets) : Checked Progress :=
  match buffer.head? with
  | none => return .needMore 1
  | some start =>
    if start = Link.ackStart then return .complete
    else if start = Link.shortStart then progressShort buffer
    else if start = Link.longStart then progressLong buffer
    else return .malformed

theorem progressShort_eq (rest : Octets) :
    progressShort (Link.shortStart :: rest) = .ok (Progress.ofShort rest) := by
  match rest with
  | [] | [_] | [_, _] | [_, _, _] => rfl
  | control :: address :: checksum :: stop :: rest =>
    have enough : ¬ (Link.shortStart :: control :: address :: checksum :: stop :: rest).length <
        Link.shortLength := by
      simp only [List.length_cons, Link.shortLength]
      omega
    rw [progressShort, if_neg enough, Progress.ofShort]
    show (if stop ≠ Link.stop then Except.ok Progress.malformed
      else if checksum ≠ control + address then .ok .malformed else .ok .complete) = _
    by_cases marked : stop = Link.stop
    · by_cases summed : checksum = control + address
      · rw [if_neg (not_not_intro marked), if_neg (not_not_intro summed), if_pos ⟨marked, summed⟩]
      · rw [if_neg (not_not_intro marked), if_pos summed, if_neg fun both => summed both.2]
    · rw [if_pos marked, if_neg fun both => marked both.1]

/-- A long frame that has arrived in full is judged by position as it is by its parts. -/
theorem verdictLong_eq (start first second mark sum stop : UInt8) (body tail : Octets)
    (most : body.length < 256) :
    verdictLong (start :: first :: second :: mark :: (body ++ sum :: stop :: tail)) body.length
        (body.length + 6) =
      .ok (if mark = Link.longStart ∧ sum = Octets.total body ∧ stop = Link.stop then .complete
        else .malformed) := by
  generalize same : start :: first :: second :: mark :: (body ++ sum :: stop :: tail) = buffer
  have inside : 4 + body.length ≤ buffer.length := by
    rw [← same]
    simp only [List.length_cons, List.length_append]
    omega
  have within : slice buffer 4 (4 + body.length) = .ok body := by
    rw [slice_ok (Nat.le_add_right 4 _) inside, ← same, Nat.add_comm 4]
    simp only [List.take_succ_cons, List.drop_succ_cons, List.drop_zero, List.take_left']
  have third : byteAt buffer 3 = .ok mark := by
    rw [← same]
    rfl
  have last : byteAt buffer (body.length + 6 - 1) = .ok stop := by
    rw [byteAt_eq_ok, ← same]
    simp
  have before : byteAt buffer (body.length + 6 - 2) = .ok sum := by
    rw [byteAt_eq_ok, ← same]
    simp
  -- the sums and differences that the positions are made of
  have small : 4 + body.length < 65536 := by omega
  have one : 1 ≤ body.length + 6 := by omega
  have two : 2 ≤ body.length + 6 := by omega
  simp only [verdictLong, plus_ok small, within, third, minus_ok one, last, minus_ok two, before,
    bind, Except.bind, pure, Except.pure]
  by_cases marked : mark = Link.longStart <;> by_cases stopped : stop = Link.stop <;>
    by_cases summed : sum = Octets.total body <;> simp [marked, stopped, summed]

theorem progressBody_eq (start first second : UInt8) (rest : Octets) {length : Nat}
    (most : length < 256) :
    progressBody (start :: first :: second :: rest) length = .ok (Progress.ofBody length rest) := by
  have small : length + Link.longOverhead < 65536 := by
    rw [Link.longOverhead]
    omega
  have count : (start :: first :: second :: rest).length = rest.length + 3 := rfl
  rcases Nat.lt_or_ge rest.length (length + 3) with less | enough
  · have short : rest.length + 3 < length + Link.longOverhead := by
      rw [Link.longOverhead]
      omega
    have missing : length + Link.longOverhead - (rest.length + 3) = length + 3 - rest.length := by
      rw [Link.longOverhead]
      omega
    rw [Progress.ofBody_short less, ← missing]
    simp only [progressBody, plus_ok small, count, short, if_true, minus_ok (Nat.le_of_lt short),
      bind, Except.bind, pure, Except.pure]
  · have whole : ¬ rest.length + 3 < length + Link.longOverhead := by
      rw [Link.longOverhead]
      omega
    obtain ⟨mark, body, sum, stop, tail, rfl, rfl⟩ := Progress.exists_body enough
    rw [Progress.ofBody_whole, ← verdictLong_eq start first second mark sum stop body tail most]
    simp only [progressBody, plus_ok small, count, whole, if_false, bind, Except.bind]
    rfl

/-- What is wrong with two length bytes is that they are not right. -/
theorem header_wrong_iff (first second : UInt8) :
    first ≠ second ∨ first.toNat < Link.minimumLength ↔
      ¬ (first = second ∧ Link.minimumLength ≤ first.toNat) := by
  rw [Decidable.not_and_iff_or_not, Nat.not_le]

theorem progressLong_eq (rest : Octets) :
    progressLong (Link.longStart :: rest) = .ok (Progress.ofLong rest) := by
  match rest with
  | [] | [_] => rfl
  | first :: second :: rest =>
    have header : ¬ (Link.longStart :: first :: second :: rest).length < Link.longHeader := by
      simp only [List.length_cons, Link.longHeader]
      omega
    have body := progressBody_eq Link.longStart first second rest first.toNat_lt
    rw [progressLong, if_neg header, Progress.ofLong]
    show (if first ≠ second ∨ first.toNat < Link.minimumLength then Except.ok Progress.malformed
      else progressBody (Link.longStart :: first :: second :: rest) first.toNat) = _
    simp only [header_wrong_iff, ite_not, body, apply_ite Except.ok]

/-- **The incremental check by position never looks outside its buffer**, and it answers as the one
on the list does. -/
theorem progress_eq (buffer : Octets) : progress buffer = .ok (Progress.ofOctets buffer) := by
  match buffer with
  | [] => rfl
  | start :: rest =>
    by_cases ack : start = Link.ackStart
    · rw [ack]
      rfl
    by_cases short : start = Link.shortStart
    · rw [short]
      exact progressShort_eq rest
    by_cases long : start = Link.longStart
    · rw [long]
      exact progressLong_eq rest
    · simp only [progress, List.head?_cons, Progress.ofOctets, if_neg ack, if_neg short, if_neg long]
      rfl

/-! ## The parser -/

/-- A reader of fields by position: out of range, at fault, or done. -/
abbrev Reader (α : Type) := ExceptT Flaw Checked α

def flawed {α : Type} (flaw : Flaw) : Reader α := ExceptT.mk (.ok (.error flaw))

def octet (input : Octets) : Reader (UInt8 × Octets) :=
  if input.length < 1 then flawed ⟨.ended, input⟩
  else do
    let byte ← byteAt input 0
    let rest ← slice input 1 input.length
    return (byte, rest)

def mark (expected : UInt8) (input : Octets) : Reader Octets :=
  if input.head? = some expected then slice input 1 input.length else flawed ⟨.mark, input⟩

def block (count : Nat) (input : Octets) : Reader (Octets × Octets) :=
  if input.length < count then flawed ⟨.ended, input⟩
  else do
    let data ← slice input 0 count
    let rest ← slice input count input.length
    return (data, rest)

def parseShort (input : Octets) : Reader (Frame × Octets) := do
  let (control, input) ← octet input
  let (address, input) ← octet input
  let (checksum, input) ← octet input
  let input ← mark Link.stop input
  return (⟨.short, control, address, 0, [], checksum⟩, input)

def parseBody (length : Nat) (input : Octets) : Reader (Frame × Octets) := do
  let input ← mark Link.longStart input
  let (control, input) ← octet input
  let (address, input) ← octet input
  let (information, input) ← octet input
  let count ← minus length Link.minimumLength
  let (data, input) ← block count input
  let (checksum, input) ← octet input
  let input ← mark Link.stop input
  let type := if length = Link.minimumLength then FrameType.control else FrameType.long
  return (⟨type, control, address, information, data, checksum⟩, input)

def parseLong (input : Octets) : Reader (Frame × Octets) := do
  let (first, input) ← octet input
  let (second, input) ← octet input
  if first ≠ second ∨ first.toNat < Link.minimumLength then flawed ⟨.length, input⟩
  else parseBody first.toNat input

def parse (input : Octets) : Reader (Frame × Octets) := do
  let (start, input) ← octet input
  if start = Link.ackStart then return (Frame.ack, input)
  else if start = Link.shortStart then parseShort input
  else if start = Link.longStart then parseLong input
  else flawed ⟨.mark, input⟩

/-- The verified decoder around the parser by position. -/
def linkFrame (buffer : Octets) : Checked (Except Fault Frame) := do
  match ← (parse buffer).run with
  | .error flaw => return .error (.parse (Frame.DecodeFault.flawed flaw).message)
  | .ok (frame, rest) =>
    if rest.isEmpty then
      match frame.verify with
      | .error sums => return .error (.parse (Frame.DecodeFault.mismatch sums).message)
      | .ok () => return .ok frame
    else return .error (.parse (Frame.DecodeFault.trailing rest.length).message)

/-- `Agrees checked plain`: the checked reader stays in range and comes to what the plain one
comes to. -/
def Agrees {α : Type} (checked : Reader α) (plain : Except Flaw α) : Prop :=
  checked.run = .ok plain

section Readers

variable {α β : Type}

theorem Agrees.bind {first : Reader α} {first' : Except Flaw α} {next : α → Reader β}
    {next' : α → Except Flaw β} (h : Agrees first first')
    (later : ∀ value, Agrees (next value) (next' value)) :
    Agrees (first >>= next) (first' >>= next') := by
  unfold Agrees at h ⊢
  rw [ExceptT.run_bind, h]
  cases first' with
  | error flaw => rfl
  | ok value => exact later value

theorem Agrees.lift {access : Checked α} {value : α} {next : α → Reader β} {plain : Except Flaw β}
    (inside : access = .ok value) (later : Agrees (next value) plain) :
    Agrees (liftM access >>= next) plain := by
  rw [inside]
  exact later

/-- What follows a first byte is a slice to the end. -/
theorem slice_rest (byte : UInt8) (rest : Octets) :
    slice (byte :: rest) 1 (byte :: rest).length = .ok rest := by
  have inside : 1 ≤ (byte :: rest).length := Nat.le_add_left 1 rest.length
  rw [slice_ok inside (Nat.le_refl _), List.take_length]
  rfl

theorem octet_agrees (input : Octets) : Agrees (octet input) (Frame.octet input) := by
  cases input with
  | nil => rfl
  | cons byte rest =>
    have some : ¬ (byte :: rest).length < 1 := by
      rw [List.length_cons]
      omega
    rw [octet, if_neg some]
    exact .lift rfl (.lift (slice_rest byte rest) rfl)

theorem mark_agrees (expected : UInt8) (input : Octets) :
    Agrees (mark expected input) (Frame.mark expected input) := by
  cases input with
  | nil => rfl
  | cons byte rest =>
    by_cases same : byte = expected
    · rw [same, mark, List.head?_cons, if_pos rfl, slice_rest, Frame.mark_cons]
      rfl
    · have other : ¬ some byte = some expected := fun h => same (Option.some.inj h)
      rw [mark, List.head?_cons, if_neg other, Frame.mark, if_neg same]
      rfl

theorem block_agrees (count : Nat) (input : Octets) :
    Agrees (block count input) (Frame.block count input) := by
  by_cases short : input.length < count
  · rw [block, Frame.block, if_pos short, if_pos short]
    rfl
  · have enough : count ≤ input.length := Nat.le_of_not_lt short
    rw [block, Frame.block, if_neg short, if_neg short, List.splitAt_eq]
    refine .lift (slice_ok (Nat.zero_le count) enough) ?_
    refine .lift (slice_ok enough (Nat.le_refl input.length)) ?_
    rw [List.drop_zero, List.take_length]
    rfl

end Readers

theorem parseShort_agrees (input : Octets) :
    Agrees (parseShort input) (Frame.parseShort input) := by
  refine (octet_agrees input).bind fun ⟨control, input⟩ => ?_
  refine (octet_agrees input).bind fun ⟨address, input⟩ => ?_
  refine (octet_agrees input).bind fun ⟨checksum, input⟩ => ?_
  exact (mark_agrees Link.stop input).bind fun input => rfl

theorem parseBody_agrees {length : Nat} (least : Link.minimumLength ≤ length) (input : Octets) :
    Agrees (parseBody length input) (Frame.parseBody length input) := by
  refine (mark_agrees Link.longStart input).bind fun input => ?_
  refine (octet_agrees input).bind fun ⟨control, input⟩ => ?_
  refine (octet_agrees input).bind fun ⟨address, input⟩ => ?_
  refine (octet_agrees input).bind fun ⟨information, input⟩ => ?_
  -- the one difference: the length bytes were checked against the least length before
  refine .lift (minus_ok least) ?_
  refine (block_agrees (length - Link.minimumLength) input).bind fun ⟨data, input⟩ => ?_
  refine (octet_agrees input).bind fun ⟨checksum, input⟩ => ?_
  exact (mark_agrees Link.stop input).bind fun input => rfl

theorem parseLong_agrees (input : Octets) : Agrees (parseLong input) (Frame.parseLong input) := by
  refine (octet_agrees input).bind fun ⟨first, input⟩ => ?_
  refine (octet_agrees input).bind fun ⟨second, input⟩ => ?_
  simp only [header_wrong_iff, ite_not]
  split
  case isTrue header => exact parseBody_agrees header.2 input
  case isFalse => rfl

/-- **The parser by position never looks outside its input**, and it answers as the one on the list
does. -/
theorem parse_agrees (input : Octets) : Agrees (parse input) (Frame.parse input) := by
  refine (octet_agrees input).bind fun ⟨start, input⟩ => ?_
  simp only
  split
  case isTrue => rfl
  case isFalse =>
    split
    case isTrue => exact parseShort_agrees input
    case isFalse =>
      split
      case isTrue => exact parseLong_agrees input
      case isFalse => rfl

theorem linkFrame_eq (buffer : Octets) : linkFrame buffer = .ok (Decoder.linkFrame buffer) := by
  have parsed : (parse buffer).run = .ok (Frame.parse buffer) := parse_agrees buffer
  rw [linkFrame, parsed, Decoder.linkFrame, Frame.decode]
  cases Frame.parse buffer with
  | error flaw => rfl
  | ok read =>
    obtain ⟨frame, rest⟩ := read
    cases rest with
    | cons byte rest => rfl
    | nil =>
      simp only [bind, Except.bind, List.isEmpty_nil, if_true]
      cases frame.verify with
      | error sums => rfl
      | ok done => rfl

/-- **No reader looks outside its buffer.** On every buffer, complete or not, every access of the
incremental check, of the parser and of the verified decoder is in range, no difference falls below
zero and no sum is too large, and the answers are those of the readers on lists. -/
theorem never_out_of_range (buffer : Octets) :
    progress buffer = .ok (Progress.ofOctets buffer) ∧
      (parse buffer).run = .ok (Frame.parse buffer) ∧
      linkFrame buffer = .ok (Decoder.linkFrame buffer) :=
  ⟨progress_eq buffer, parse_agrees buffer, linkFrame_eq buffer⟩

end Checked

end MeterBus
