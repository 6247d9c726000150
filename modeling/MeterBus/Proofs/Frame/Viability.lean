import MeterBus.Proofs.Frame.Completion

/-! # Which unfinished buffers can still become a frame

The incremental check judges a second length byte, a second start byte and a checksum only when more
has arrived, so it goes on asking for some buffers that no continuation completes. These are the
four shapes of `Lost`. Every other unfinished buffer is completed by bytes made to measure: a body
of zeros as far as the length byte counts, the sum of it all, and the stop byte.

* `Lost`: the four shapes.
* `Lost.hopeless`: no continuation of them is complete.
* `exists_more`: every other unfinished buffer has one that is.
-/
namespace MeterBus
open MeterBus.Frame (OnWire envelope toNat_length)
set_option autoImplicit false

namespace Progress

/-- Buffers that no frame can come of, although the check may still ask for more of them. -/
inductive Lost : Octets → Prop where
  /-- The first length byte counts too little, and the second is not there yet. -/
  | length (length : UInt8) (small : length.toNat < Link.minimumLength) :
    Lost [Link.longStart, length]
  /-- The checksum of a short frame is wrong, and its stop byte is not there yet. -/
  | shortSum (control address sum : UInt8) (wrong : sum ≠ control + address) :
    Lost [Link.shortStart, control, address, sum]
  /-- The second start byte is another. -/
  | start (length second mark : UInt8) (rest : Octets) (wrong : mark ≠ Link.longStart) :
    Lost (Link.longStart :: length :: second :: mark :: rest)
  /-- The checksum of a long frame is wrong, and its stop byte is not there yet. -/
  | longSum (length second mark sum : UInt8) (body : Octets) (count : body.length = length.toNat)
    (wrong : sum ≠ Octets.total body) :
    Lost (Link.longStart :: length :: second :: mark :: (body ++ [sum]))

/-! ## No way on -/

theorem complete_shortStart {rest : Octets} (h : ofOctets (Link.shortStart :: rest) = .complete) :
    ∃ (control address : UInt8) (tail : Octets),
      rest = control :: address :: (control + address) :: Link.stop :: tail := by
  obtain ⟨frame, bytes, tail, wire, split⟩ := onWire_of_complete h
  cases wire with
  | ack => exact absurd (List.cons.inj split).1 (by decide)
  | short control address => exact ⟨control, address, tail, (List.cons.inj split).2⟩
  | long => exact absurd (List.cons.inj split).1 (by decide)

theorem complete_longStart {rest : Octets} (h : ofOctets (Link.longStart :: rest) = .complete) :
    ∃ body tail, 3 ≤ body.length ∧ body.length < 256 ∧
      rest = body.length.toUInt8 :: body.length.toUInt8 :: Link.longStart ::
        (body ++ Octets.total body :: Link.stop :: tail) := by
  obtain ⟨frame, bytes, tail, wire, split⟩ := onWire_of_complete h
  cases wire with
  | ack => exact absurd (List.cons.inj split).1 (by decide)
  | short => exact absurd (List.cons.inj split).1 (by decide)
  | long control address information data fits =>
    refine ⟨control :: address :: information :: data, tail, ?_, ?_, ?_⟩
    · simp only [List.length_cons]
      omega
    · simp only [List.length_cons]
      omega
    · simp only [envelope, List.cons_append, List.append_assoc, List.nil_append] at split
      exact (List.cons.inj split).2

theorem Lost.hopeless {buffer : Octets} (h : Lost buffer) (more : Octets) :
    ofOctets (buffer ++ more) ≠ .complete := by
  intro complete
  cases h with
  | length length small =>
    rw [List.cons_append] at complete
    obtain ⟨body, tail, least, most, split⟩ := complete_longStart complete
    rw [(List.cons.inj split).1, toNat_length most] at small
    exact Nat.not_lt.mpr least small
  | shortSum control address sum wrong =>
    rw [List.cons_append] at complete
    obtain ⟨control', address', tail, split⟩ := complete_shortStart complete
    simp only [List.cons_append, List.cons.injEq] at split
    obtain ⟨rfl, rfl, sum, -⟩ := split
    exact wrong sum
  | start length second mark rest wrong =>
    rw [List.cons_append] at complete
    obtain ⟨body, tail, least, most, split⟩ := complete_longStart complete
    simp only [List.cons_append, List.cons.injEq] at split
    exact wrong split.2.2.1
  | longSum length second mark sum body count wrong =>
    rw [List.cons_append] at complete
    obtain ⟨body', tail, least, most, split⟩ := complete_longStart complete
    simp only [List.append_assoc, List.cons_append, List.cons.injEq] at split
    obtain ⟨first, -, -, rest⟩ := split
    -- The length byte counts both bodies, so each checksum stands behind the same body.
    have same : body.length = body'.length := by rw [count, first, toNat_length most]
    obtain ⟨rfl, behind⟩ := List.append_inj rest same
    exact wrong (List.cons.inj behind).1

/-! ## A way on -/

theorem exists_more_short {rest : Octets} (few : rest.length < 4)
    (alive : ¬ Lost (Link.shortStart :: rest)) :
    ∃ more, ofOctets (Link.shortStart :: (rest ++ more)) = .complete := by
  have whole (control address : UInt8) :
      ofOctets [Link.shortStart, control, address, control + address, Link.stop] = .complete :=
    complete_of_onWire (.short control address) []
  match rest with
  | [] => exact ⟨[0, 0, 0 + 0, Link.stop], whole 0 0⟩
  | [control] => exact ⟨[0, control + 0, Link.stop], whole control 0⟩
  | [control, address] => exact ⟨[control + address, Link.stop], whole control address⟩
  | [control, address, sum] =>
    by_cases right : sum = control + address
    · rw [right]
      exact ⟨[Link.stop], whole control address⟩
    · exact absurd (.shortSum control address sum right) alive
  | _ :: _ :: _ :: _ :: rest =>
    simp only [List.length_cons] at few
    omega

/-- A body as long as the length byte counts is completed by its sum and the stop byte. -/
theorem complete_whole {length : UInt8} (least : 3 ≤ length.toNat) {body : Octets}
    (count : body.length = length.toNat) :
    ofOctets (Link.longStart :: length :: length :: Link.longStart ::
      (body ++ [Octets.total body, Link.stop])) = .complete := by
  rw [ofOctets_longStart, ofLong_header length _ least, ← count]
  exact (ofBody_whole _ _ _ body []).trans (if_pos ⟨rfl, rfl, rfl⟩)

/-- Zeros fill a body up that is not there in full. -/
theorem exists_more_body {length : UInt8} (least : 3 ≤ length.toNat) {front : Octets}
    (fits : front.length ≤ length.toNat) :
    ∃ more, ofOctets (Link.longStart :: length :: length :: Link.longStart :: (front ++ more)) =
      .complete := by
  have count : (front ++ List.replicate (length.toNat - front.length) 0).length = length.toNat := by
    rw [List.length_append, List.length_replicate]
    omega
  have whole := complete_whole least count
  rw [List.append_assoc] at whole
  exact ⟨_, whole⟩

theorem exists_more_lengths {length : UInt8} (least : 3 ≤ length.toNat) :
    ∃ more, ofOctets (Link.longStart :: length :: length :: more) = .complete := by
  obtain ⟨more, complete⟩ := @exists_more_body length least [] (Nat.zero_le _)
  exact ⟨Link.longStart :: more, complete⟩

theorem exists_more_header {length : UInt8} (least : 3 ≤ length.toNat) {rest : Octets}
    (few : rest.length < length.toNat + 3)
    (alive : ¬ Lost (Link.longStart :: length :: length :: rest)) :
    ∃ more, ofOctets (Link.longStart :: length :: length :: (rest ++ more)) = .complete := by
  match rest with
  | [] => exact exists_more_lengths least
  | mark :: rest =>
    by_cases right : mark = Link.longStart
    · subst right
      rw [List.length_cons] at few
      rcases Nat.lt_or_ge length.toNat rest.length with beyond | inside
      · -- Only the stop byte is missing, so the checksum decides.
        obtain rfl | ⟨body, sum, split⟩ := rest.eq_nil_or_concat
        · exact absurd beyond (Nat.not_lt_zero _)
        rw [List.concat_eq_append] at split
        subst split
        rw [List.length_append, List.length_singleton] at few beyond
        have count : body.length = length.toNat := by omega
        by_cases same : sum = Octets.total body
        · refine ⟨[Link.stop], ?_⟩
          rw [same, List.cons_append, List.append_assoc]
          exact complete_whole least count
        · exact absurd (.longSum length length Link.longStart sum body count same) alive
      · exact exists_more_body least inside
    · exact absurd (.start length length mark rest right) alive

theorem exists_more_long {rest : Octets} {n : Nat} (wanting : ofLong rest = .needMore n)
    (alive : ¬ Lost (Link.longStart :: rest)) :
    ∃ more, ofOctets (Link.longStart :: (rest ++ more)) = .complete := by
  obtain ⟨few, -⟩ | ⟨length, body, rfl, least, missing⟩ := needMore_of_ofLong wanting
  · match rest with
    | [] =>
      obtain ⟨more, complete⟩ := @exists_more_lengths 3 (Nat.le_refl 3)
      exact ⟨3 :: 3 :: more, complete⟩
    | [length] =>
      by_cases small : length.toNat < Link.minimumLength
      · exact absurd (.length length small) alive
      · obtain ⟨more, complete⟩ := @exists_more_lengths length (Nat.not_lt.mp small)
        exact ⟨length :: more, complete⟩
    | _ :: _ :: rest =>
      simp only [List.length_cons] at few
      omega
  · exact exists_more_header least (needMore_of_ofBody missing).1 alive

theorem exists_more {buffer : Octets} {n : Nat} (wanting : ofOctets buffer = .needMore n)
    (alive : ¬ Lost buffer) : ∃ more, ofOctets (buffer ++ more) = .complete := by
  match buffer with
  | [] => exact ⟨[Link.ackStart], rfl⟩
  | start :: rest =>
    obtain rfl | rfl | rfl | other := start_cases start
    · exact nomatch wanting
    · exact exists_more_short (needMore_of_ofShort wanting).1 alive
    · exact exists_more_long wanting alive
    · exact nomatch (other rest).symm.trans wanting

/-! ## Both ways -/

/-- **The buffers that are asked for more in vain are those of four shapes.** A buffer that wants
more has a complete continuation unless it is `Lost`, and one that is given up has none. -/
theorem completable_iff (buffer : Octets) :
    (∀ n, ofOctets buffer = .needMore n →
      ((∃ more, ofOctets (buffer ++ more) = .complete) ↔ ¬ Lost buffer)) ∧
      (ofOctets buffer = .malformed → ∀ more, ofOctets (buffer ++ more) ≠ .complete) := by
  refine ⟨?_, ?_⟩
  · intro n wanting
    constructor
    · rintro ⟨more, complete⟩ lost
      exact lost.hopeless more complete
    · intro alive
      exact exists_more wanting alive
  · intro malformed more complete
    exact nomatch (malformed_append malformed more).symm.trans complete

/-- A long frame that lacks its stop byte, with the right checksum, with a wrong one, and with a
wrong second start byte; and one that is given up. -/
theorem completable_iff_stop :
    ofOctets [0x68, 3, 3, 0x68, 8, 1, 0x72, 0x7B] = .needMore 1 ∧
      ¬ Lost [0x68, 3, 3, 0x68, 8, 1, 0x72, 0x7B] ∧
      ofOctets [0x68, 3, 3, 0x68, 8, 1, 0x72, 0x7C] = .needMore 1 ∧
      (¬ ∃ more, ofOctets ([0x68, 3, 3, 0x68, 8, 1, 0x72, 0x7C] ++ more) = .complete) ∧
      ofOctets [0x68, 3, 3, 0x67] = .needMore 5 ∧
      (¬ ∃ more, ofOctets ([0x68, 3, 3, 0x67] ++ more) = .complete) ∧
      ofOctets [0x68, 3, 4] = .malformed ∧
      ∀ more, ofOctets ([0x68, 3, 4] ++ more) ≠ .complete := by
  have right : ofOctets [0x68, 3, 3, 0x68, 8, 1, 0x72, 0x7B] = .needMore 1 := rfl
  have wrong : ofOctets [0x68, 3, 3, 0x68, 8, 1, 0x72, 0x7C] = .needMore 1 := rfl
  have mark : ofOctets [0x68, 3, 3, 0x67] = .needMore 5 := rfl
  have given : ofOctets [0x68, 3, 4] = .malformed := rfl
  have way : ∃ more, ofOctets ([0x68, 3, 3, 0x68, 8, 1, 0x72, 0x7B] ++ more) = .complete :=
    ⟨[0x16], rfl⟩
  have sum : Lost [0x68, 3, 3, 0x68, 8, 1, 0x72, 0x7C] :=
    .longSum 3 3 0x68 0x7C [8, 1, 0x72] rfl (by decide)
  have start : Lost [0x68, 3, 3, 0x67] := .start 3 3 0x67 [] (by decide)
  refine ⟨right, ((completable_iff _).1 1 right).mp way, wrong, ?_, mark, ?_, given,
    (completable_iff _).2 given⟩
  · exact fun way => ((completable_iff _).1 1 wrong).mp way sum
  · exact fun way => ((completable_iff _).1 5 mark).mp way start

end Progress

end MeterBus
