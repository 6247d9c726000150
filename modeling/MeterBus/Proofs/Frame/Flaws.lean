import MeterBus.Proofs.Frame.Acceptance

/-! # What the parser objects to

The parser reads the frames of the grammar and no others. Of every other input it reports the first
field that is missing or wrong, and the bytes unread there: a single byte and the data block are
missed where they would begin, a mark where it would stand, and the two length bytes are judged
together once both are there.

* `Framed.parse`: what is framed is read, whatever follows it.
* `objection`: the first field at fault, from the positions of the bytes alone.
* `parsed_exactly`: the main result.
-/
namespace MeterBus
set_option autoImplicit false

namespace Frame

theorem Framed.parse {frame : Frame} {bytes : Octets} (h : Framed frame bytes) (rest : Octets) :
    parse (bytes ++ rest) = .ok (frame, rest) := by
  cases h with
  | ack => rfl
  | short control address sum => rfl
  | long control address information sum data fits =>
    exact parse_wrap control address information sum fits rest

/-- What is wrong first with an input that begins with no frame. -/
def objection (input : Octets) : Flaw :=
  match input with
  | [] => ⟨.ended, []⟩
  | start :: _ =>
    let length := input.getD 1 0
    if start = Link.shortStart then
      if input.length < 4 then ⟨.ended, []⟩ else ⟨.mark, input.drop 4⟩
    else if start = Link.longStart then
      if input.length < 3 then ⟨.ended, []⟩
      else if length ≠ input.getD 2 0 ∨ length.toNat < 3 then ⟨.length, input.drop 3⟩
      else if input[3]? ≠ some Link.longStart then ⟨.mark, input.drop 3⟩
      else if input.length < 7 then ⟨.ended, []⟩
      else if input.length < length.toNat + 4 then ⟨.ended, input.drop 7⟩
      else if input.length = length.toNat + 4 then ⟨.ended, []⟩
      else ⟨.mark, input.drop (length.toNat + 5)⟩
    else ⟨.mark, input.drop 1⟩

/-! ## Field by field -/

section

variable {input rest : Octets} {flaw : Flaw}

/-- A byte is missing, or what is read behind it fails. -/
theorem octet_bind_error {β : Type} {next : UInt8 × Octets → Except Flaw β}
    (h : octet input >>= next = .error flaw) :
    (input = [] ∧ flaw = ⟨.ended, []⟩) ∨
      ∃ byte rest, input = byte :: rest ∧ next (byte, rest) = .error flaw := by
  cases input with
  | nil => exact Or.inl ⟨rfl, (Except.error.inj h).symm⟩
  | cons byte rest => exact Or.inr ⟨byte, rest, rfl, h⟩

theorem mark_error {expected : UInt8} (h : mark expected input = .error flaw) :
    input.head? ≠ some expected ∧ flaw = ⟨.mark, input⟩ := by
  cases input with
  | nil => exact ⟨nofun, (Except.error.inj h).symm⟩
  | cons byte rest =>
    simp only [mark] at h
    split at h
    case isTrue => cases h
    case isFalse other =>
      exact ⟨fun same => other (Option.some.inj same), (Except.error.inj h).symm⟩

theorem block_error {count : Nat} (h : block count input = .error flaw) :
    input.length < count ∧ flaw = ⟨.ended, input⟩ := by
  unfold block at h
  split at h
  case isTrue short => exact ⟨short, (Except.error.inj h).symm⟩
  case isFalse => exact nomatch h

/-! ## Short frames -/

theorem parseShort_error (h : parseShort rest = .error flaw) :
    flaw = objection (Link.shortStart :: rest) := by
  rcases octet_bind_error h with ⟨rfl, rfl⟩ | ⟨control, rest₁, rfl, h₁⟩
  · rfl
  rcases octet_bind_error h₁ with ⟨rfl, rfl⟩ | ⟨address, rest₂, rfl, h₂⟩
  · rfl
  rcases octet_bind_error h₂ with ⟨rfl, rfl⟩ | ⟨sum, rest₃, rfl, h₃⟩
  · rfl
  rcases bind_error h₃ with failed | ⟨rest₄, _, h₄⟩
  · exact (mark_error failed).2
  · exact nomatch h₄

/-! ## Control and long frames -/

/-- The objection to what follows the two length bytes. -/
def bodyObjection (length : Nat) (rest : Octets) : Flaw :=
  if rest.head? ≠ some Link.longStart then ⟨.mark, rest⟩
  else if rest.length < 4 then ⟨.ended, []⟩
  else if rest.length < length + 1 then ⟨.ended, rest.drop 4⟩
  else if rest.length = length + 1 then ⟨.ended, []⟩
  else ⟨.mark, rest.drop (length + 2)⟩

theorem objection_long (first second : UInt8) (rest : Octets) :
    objection (Link.longStart :: first :: second :: rest) =
      if first ≠ second ∨ first.toNat < 3 then ⟨.length, rest⟩
      else bodyObjection first.toNat rest := by
  have long : ¬ Link.longStart = Link.shortStart := by decide
  have total : (Link.longStart :: first :: second :: rest).length = rest.length + 3 := rfl
  have fourth : (Link.longStart :: first :: second :: rest)[3]? = rest.head? :=
    List.head?_eq_getElem?.symm
  have header : ¬ rest.length + 3 < 3 := by omega
  have seven : rest.length + 3 < 7 ↔ rest.length < 4 := by omega
  simp only [objection, bodyObjection, if_neg long, if_true, total, if_neg header, seven, fourth,
    List.getD_cons_succ, List.getD_cons_zero, List.drop_succ_cons, List.drop_zero,
    Nat.add_lt_add_iff_right, Nat.add_right_cancel_iff]

theorem parseBody_error {length : Nat} (least : 3 ≤ length)
    (h : parseBody length rest = .error flaw) : flaw = bodyObjection length rest := by
  unfold bodyObjection
  rcases bind_error h with failed | ⟨rest₁, read₁, h₁⟩
  · obtain ⟨other, rfl⟩ := mark_error failed
    exact (if_pos other).symm
  obtain rfl := mark_ok read₁
  rw [if_neg fun other => other rfl]
  rcases octet_bind_error h₁ with ⟨rfl, rfl⟩ | ⟨control, rest₂, rfl, h₂⟩
  · rfl
  rcases octet_bind_error h₂ with ⟨rfl, rfl⟩ | ⟨address, rest₃, rfl, h₃⟩
  · rfl
  rcases octet_bind_error h₃ with ⟨rfl, rfl⟩ | ⟨information, rest₄, rfl, h₄⟩
  · rfl
  have total : (Link.longStart :: control :: address :: information :: rest₄).length =
      rest₄.length + 4 := rfl
  rw [total, if_neg (by omega)]
  rcases bind_error h₄ with failed | ⟨⟨data, rest₅⟩, read₅, h₅⟩
  · obtain ⟨short, rfl⟩ := block_error failed
    rw [Link.minimumLength] at short
    rw [if_pos (by omega)]
    rfl
  obtain ⟨rfl, count⟩ := block_ok read₅
  rw [Link.minimumLength] at count
  rw [List.length_append, if_neg (by omega)]
  rcases octet_bind_error h₅ with ⟨rfl, rfl⟩ | ⟨sum, rest₆, rfl, h₆⟩
  · rw [if_pos (by rw [List.length_nil]; omega)]
  rw [if_neg (by rw [List.length_cons]; omega)]
  rcases bind_error h₆ with failed | ⟨rest₇, _, h₇⟩
  · obtain ⟨-, rfl⟩ := mark_error failed
    -- the data and the checksum behind the four bytes of the header
    have behind : length + 2 = (data.length + 1) + 4 := by omega
    rw [behind]
    simp only [List.drop_succ_cons, List.drop_append, Nat.le_add_right, List.drop_of_length_le,
      List.nil_append, Nat.add_sub_cancel_left, List.drop_zero]
  · cases h₇

theorem parseLong_error (h : parseLong rest = .error flaw) :
    flaw = objection (Link.longStart :: rest) := by
  rcases octet_bind_error h with ⟨rfl, rfl⟩ | ⟨first, rest₁, rfl, h₁⟩
  · rfl
  rcases octet_bind_error h₁ with ⟨rfl, rfl⟩ | ⟨second, rest₂, rfl, h₂⟩
  · rfl
  rw [objection_long]
  by_cases header : first = second ∧ Link.minimumLength ≤ first.toNat
  · obtain ⟨rfl, least⟩ := header
    have judged : ¬ (first ≠ first ∨ first.toNat < 3) := by
      rintro (other | few)
      · exact other rfl
      · exact Nat.not_lt.mpr least few
    rw [if_neg judged]
    exact parseBody_error least ((if_pos ⟨rfl, least⟩).symm.trans h₂)
  · have judged : first ≠ second ∨ first.toNat < 3 := by
      rwa [Decidable.not_and_iff_or_not, Nat.not_le] at header
    rw [if_pos judged]
    exact (Except.error.inj ((if_neg header).symm.trans h₂)).symm

theorem parse_error (h : parse input = .error flaw) : flaw = objection input := by
  rcases octet_bind_error h with ⟨rfl, rfl⟩ | ⟨start, rest, rfl, h₁⟩
  · rfl
  simp only at h₁
  split at h₁
  case isTrue => exact nomatch h₁
  case isFalse =>
    split at h₁
    case isTrue short =>
      rw [short]
      exact parseShort_error h₁
    case isFalse other =>
      split at h₁
      case isTrue long =>
        rw [long]
        exact parseLong_error h₁
      case isFalse neither =>
        rw [objection]
        simp only [if_neg other, if_neg neither]
        exact (Except.error.inj h₁).symm

end

/-! ## The main result -/

theorem parse_ok_iff (input rest : Octets) (frame : Frame) :
    parse input = .ok (frame, rest) ↔ ∃ bytes, Framed frame bytes ∧ input = bytes ++ rest := by
  constructor
  · exact parse_ok
  · rintro ⟨bytes, framed, rfl⟩
    exact framed.parse rest

/-- **The parser reads the frames of the grammar, each with any bytes behind it, and reports the
first field at fault in everything else.** The verified decoder passes that report on. -/
theorem parsed_exactly (input : Octets) :
    (∀ frame rest, parse input = .ok (frame, rest) ↔
        ∃ bytes, Framed frame bytes ∧ input = bytes ++ rest) ∧
      ((¬ ∃ frame bytes rest, Framed frame bytes ∧ input = bytes ++ rest) →
        parse input = .error (objection input) ∧
          Decoder.linkFrame input = .error (.parse (objection input).message)) := by
  refine ⟨fun frame rest => parse_ok_iff input rest frame, fun unread => ?_⟩
  cases parsed : parse input with
  | ok read =>
    obtain ⟨bytes, framed, same⟩ := parse_ok parsed
    exact absurd ⟨read.1, bytes, read.2, framed, same⟩ unread
  | error flaw =>
    obtain rfl := parse_error parsed
    refine ⟨rfl, ?_⟩
    rw [Decoder.linkFrame, decode, parsed]
    rfl

/-- A frame of one data byte that ends behind it is missed its checksum, and one with other bytes
behind the checksum is told where the stop byte should be. -/
theorem parsed_exactly_unstopped :
    parse [0x68, 4, 4, 0x68, 8, 1, 0x72, 0xFF] = .error ⟨.ended, []⟩ ∧
      parse [0x68, 4, 4, 0x68, 8, 1, 0x72, 0xFF, 0x7A, 0x17, 9] = .error ⟨.mark, [0x17, 9]⟩ ∧
      parse [0x68, 4, 4, 0x68, 8, 1, 0x72, 0xFF, 0x7B, 0x16, 9] =
        .ok (⟨.long, 8, 1, 0x72, [0xFF], 0x7B⟩, [9]) := by
  have unread {input : Octets} {flaw : Flaw} (failed : parse input = .error flaw) :
      ¬ ∃ frame bytes rest, Framed frame bytes ∧ input = bytes ++ rest := by
    rintro ⟨frame, bytes, rest, framed, rfl⟩
    exact nomatch failed.symm.trans (framed.parse rest)
  refine ⟨((parsed_exactly _).2 (unread rfl)).1, ((parsed_exactly _).2 (unread rfl)).1, ?_⟩
  exact ((parsed_exactly _).1 _ _).mpr ⟨_, .long 8 1 0x72 0x7B [0xFF] (by decide), rfl⟩

end Frame

end MeterBus
