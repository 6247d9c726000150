import MeterBus.Proofs.Frame.Grammar

/-! # When a buffer is complete, and what more bytes change

The incremental check against the grammar: it is content with a buffer exactly if a frame on the
wire stands at its front, what it asks for never leads past that frame, and once it has judged a
buffer no further byte changes its mind.

* `ofBody_whole`: the verdict on a body that has arrived in full.
* `complete_of_onWire`, `onWire_of_complete`: completeness is the grammar.
* `needMore_append`, `complete_append`, `malformed_append`: the answer to a longer buffer.
* `needMore_of_onWire`: every proper beginning of a frame on the wire wants more.
* `Growing`: a buffer of which no proper beginning was judged.
-/
namespace MeterBus
open MeterBus.Frame (OnWire envelope envelope_eq toNat_length wrap)
set_option autoImplicit false

namespace Progress

/-! ## Behind each start byte -/

theorem ofOctets_shortStart (rest : Octets) :
    ofOctets (Link.shortStart :: rest) = ofShort rest := rfl

theorem ofOctets_longStart (rest : Octets) :
    ofOctets (Link.longStart :: rest) = ofLong rest := rfl

/-- A first byte that starts no frame leaves nothing to wait for. -/
theorem start_cases (start : UInt8) :
    start = Link.ackStart ∨ start = Link.shortStart ∨ start = Link.longStart ∨
      ∀ rest, ofOctets (start :: rest) = .malformed := by
  by_cases ack : start = Link.ackStart
  · exact Or.inl ack
  by_cases short : start = Link.shortStart
  · exact Or.inr (Or.inl short)
  by_cases long : start = Link.longStart
  · exact Or.inr (Or.inr (Or.inl long))
  · refine Or.inr (Or.inr (Or.inr fun rest => ?_))
    rw [ofOctets, if_neg ack, if_neg short, if_neg long]

theorem ofShort_short {rest : Octets} (h : rest.length < 4) :
    ofShort rest = .needMore (4 - rest.length) := by
  match rest with
  | [] | [_] | [_, _] | [_, _, _] => rfl
  | _ :: _ :: _ :: _ :: rest =>
    simp only [List.length_cons] at h
    omega

theorem ofLong_short {rest : Octets} (h : rest.length < 2) :
    ofLong rest = .needMore (2 - rest.length) := by
  match rest with
  | [] | [_] => rfl
  | _ :: _ :: rest =>
    simp only [List.length_cons] at h
    omega

theorem ofLong_header (length : UInt8) (rest : Octets) (least : 3 ≤ length.toNat) :
    ofLong (length :: length :: rest) = ofBody length.toNat rest :=
  if_pos ⟨rfl, least⟩

/-- Bytes behind a header that suffice for a body of the given length are a second start byte, the
body, a checksum, a stop byte and what follows. -/
theorem exists_body {length : Nat} {rest : Octets} (h : length + 3 ≤ rest.length) :
    ∃ (mark : UInt8) (body : Octets) (sum stop : UInt8) (tail : Octets),
      rest = mark :: (body ++ sum :: stop :: tail) ∧ body.length = length := by
  match rest with
  | mark :: rest =>
    rw [List.length_cons] at h
    match behind : rest.drop length with
    | [] | [_] =>
      have count := congrArg List.length behind
      simp only [List.length_drop, List.length_nil, List.length_cons] at count
      omega
    | sum :: stop :: tail =>
      refine ⟨mark, rest.take length, sum, stop, tail, ?_, ?_⟩
      · rw [← behind, List.take_append_drop]
      · rw [List.length_take]
        omega

/-- The verdict on a body that has arrived in full. -/
theorem ofBody_whole (mark sum stop : UInt8) (body tail : Octets) :
    ofBody body.length (mark :: (body ++ sum :: stop :: tail)) =
      if mark = Link.longStart ∧ sum = Octets.total body ∧ stop = Link.stop then complete
      else malformed := by
  have whole : ¬ (mark :: (body ++ sum :: stop :: tail)).length <
      body.length + (Link.longOverhead - Link.longHeader) := by
    simp only [List.length_cons, List.length_append, Link.longOverhead, Link.longHeader]
    omega
  have holds : bodyHolds body.length (mark :: (body ++ sum :: stop :: tail)) = true ↔
      mark = Link.longStart ∧ sum = Octets.total body ∧ stop = Link.stop := by
    simp [bodyHolds, Nat.add_comm 1]
  rw [ofBody, if_neg whole]
  simp only [holds]

theorem ofBody_short {length : Nat} {rest : Octets} (h : rest.length < length + 3) :
    ofBody length rest = .needMore (length + 3 - rest.length) :=
  if_pos h

/-- Of a body in its marks and lengths the checksum alone is judged. -/
theorem ofOctets_wrap (sum : UInt8) {body : Octets} (least : 3 ≤ body.length)
    (most : body.length < 256) (rest : Octets) :
    ofOctets (wrap sum body ++ rest) = if sum = Octets.total body then complete else malformed := by
  have count := toNat_length most
  have whole := ofBody_whole Link.longStart sum Link.stop body rest
  simp only [true_and, and_true] at whole
  rw [← count] at least
  simp only [wrap, List.cons_append, List.append_assoc, List.nil_append]
  rw [ofOctets_longStart, ofLong_header _ _ least, count]
  exact whole

/-! ## Completeness is the grammar -/

theorem complete_of_onWire {frame : Frame} {bytes : Octets} (h : OnWire frame bytes)
    (rest : Octets) : ofOctets (bytes ++ rest) = .complete := by
  cases h with
  | ack => rfl
  | short control address => exact if_pos ⟨rfl, rfl⟩
  | long control address information data fits =>
    rw [envelope_eq, ofOctets_wrap]
    · exact if_pos rfl
    · simp only [List.length_cons]
      omega
    · simp only [List.length_cons]
      omega

/-- What follows a start byte of a short frame that is complete. -/
theorem onWire_of_ofShort {rest : Octets} (h : ofShort rest = .complete) :
    ∃ frame bytes tail, OnWire frame bytes ∧ Link.shortStart :: rest = bytes ++ tail := by
  match rest with
  | control :: address :: checksum :: stop :: tail =>
    simp only [ofShort] at h
    split at h
    case isFalse => exact nomatch h
    case isTrue holds =>
      obtain ⟨rfl, rfl⟩ := holds
      exact ⟨_, _, tail, .short control address, rfl⟩

theorem onWire_of_ofLong {rest : Octets} (h : ofLong rest = .complete) :
    ∃ frame bytes tail, OnWire frame bytes ∧ Link.longStart :: rest = bytes ++ tail := by
  match rest with
  | first :: second :: rest =>
    simp only [ofLong] at h
    split at h
    case isFalse => exact nomatch h
    case isTrue header =>
      obtain ⟨rfl, least⟩ := header
      rcases Nat.lt_or_ge rest.length (first.toNat + 3) with less | enough
      · exact nomatch (ofBody_short less).symm.trans h
      obtain ⟨mark, body, sum, stop, tail, rfl, length⟩ := exists_body enough
      rw [← length, ofBody_whole] at h
      split at h
      case isFalse => exact nomatch h
      case isTrue holds =>
        obtain ⟨rfl, rfl, rfl⟩ := holds
        have byte : first = body.length.toUInt8 := by
          rw [length, Nat.toUInt8_eq, UInt8.ofNat_toNat]
        have most : first.toNat < 256 := first.toNat_lt
        match body with
        | [] | [_] | [_, _] =>
          simp only [List.length_nil, List.length_cons] at length
          rw [← length] at least
          exact absurd least (by decide)
        | control :: address :: information :: data =>
          have fits : data.length < 253 := by
            simp only [List.length_cons] at length
            omega
          refine ⟨_, _, tail, .long control address information data fits, ?_⟩
          simp only [envelope, ← byte, List.cons_append, List.append_assoc, List.nil_append]

/-- A buffer that is complete begins with a frame on the wire. -/
theorem onWire_of_complete {buffer : Octets} (h : ofOctets buffer = .complete) :
    ∃ frame bytes tail, OnWire frame bytes ∧ buffer = bytes ++ tail := by
  match buffer with
  | start :: rest =>
    obtain rfl | rfl | rfl | other := start_cases start
    · exact ⟨_, _, rest, .ack, rfl⟩
    · exact onWire_of_ofShort h
    · exact onWire_of_ofLong h
    · exact nomatch (other rest).symm.trans h

/-! ## More bytes -/

theorem complete_append {buffer : Octets} (h : ofOctets buffer = .complete) (more : Octets) :
    ofOctets (buffer ++ more) = .complete := by
  obtain ⟨frame, bytes, tail, wire, rfl⟩ := onWire_of_complete h
  rw [List.append_assoc]
  exact complete_of_onWire wire (tail ++ more)

theorem ofShort_malformed_append {rest : Octets} (h : ofShort rest = .malformed) (more : Octets) :
    ofShort (rest ++ more) = .malformed := by
  match rest with
  | _ :: _ :: _ :: _ :: rest => exact h

theorem ofBody_malformed_append {length : Nat} {rest : Octets} (h : ofBody length rest = .malformed)
    (more : Octets) : ofBody length (rest ++ more) = .malformed := by
  rcases Nat.lt_or_ge rest.length (length + 3) with less | enough
  · exact nomatch (ofBody_short less).symm.trans h
  obtain ⟨mark, body, sum, stop, tail, rfl, rfl⟩ := exists_body enough
  rw [ofBody_whole] at h
  simp only [List.cons_append, List.append_assoc]
  exact (ofBody_whole mark sum stop body (tail ++ more)).trans h

theorem ofLong_malformed_append {rest : Octets} (h : ofLong rest = .malformed) (more : Octets) :
    ofLong (rest ++ more) = .malformed := by
  match rest with
  | first :: second :: rest =>
    simp only [ofLong, List.cons_append] at h ⊢
    split at h
    case isFalse header => exact if_neg header
    case isTrue header =>
      rw [if_pos header]
      exact ofBody_malformed_append h more

theorem malformed_append {buffer : Octets} (h : ofOctets buffer = .malformed) (more : Octets) :
    ofOctets (buffer ++ more) = .malformed := by
  match buffer with
  | start :: rest =>
    obtain rfl | rfl | rfl | other := start_cases start
    · exact nomatch h
    · exact ofShort_malformed_append h more
    · exact ofLong_malformed_append h more
    · exact other (rest ++ more)

/-! ## Missing bytes -/

theorem needMore_of_ofShort {rest : Octets} {n : Nat} (h : ofShort rest = .needMore n) :
    rest.length < 4 ∧ n = 4 - rest.length := by
  rcases Nat.lt_or_ge rest.length 4 with less | enough
  · exact ⟨less, Progress.needMore.inj (h.symm.trans (ofShort_short less))⟩
  · match rest with
    | [] | [_] | [_, _] | [_, _, _] =>
      simp only [List.length_cons, List.length_nil] at enough
      omega
    | _ :: _ :: _ :: _ :: _ =>
      simp only [ofShort] at h
      split at h <;> exact nomatch h

theorem needMore_of_ofBody {length : Nat} {rest : Octets} {n : Nat}
    (h : ofBody length rest = .needMore n) :
    rest.length < length + 3 ∧ n = length + 3 - rest.length := by
  rcases Nat.lt_or_ge rest.length (length + 3) with less | enough
  · exact ⟨less, Progress.needMore.inj (h.symm.trans (ofBody_short less))⟩
  · obtain ⟨mark, body, sum, stop, tail, rfl, rfl⟩ := exists_body enough
    rw [ofBody_whole] at h
    split at h <;> exact nomatch h

theorem needMore_of_ofLong {rest : Octets} {n : Nat} (h : ofLong rest = .needMore n) :
    (rest.length < 2 ∧ n = 2 - rest.length) ∨
      ∃ (length : UInt8) (body : Octets), rest = length :: length :: body ∧ 3 ≤ length.toNat ∧
        ofBody length.toNat body = .needMore n := by
  rcases Nat.lt_or_ge rest.length 2 with less | enough
  · exact Or.inl ⟨less, Progress.needMore.inj (h.symm.trans (ofLong_short less))⟩
  · match rest with
    | [] | [_] =>
      simp only [List.length_cons, List.length_nil] at enough
      omega
    | first :: second :: body =>
      simp only [ofLong] at h
      split at h
      case isFalse => exact nomatch h
      case isTrue header =>
        obtain ⟨rfl, least⟩ := header
        exact Or.inr ⟨first, body, rfl, least, h⟩

/-- What is missing is at least one byte and never leads past the longest frame. -/
theorem needMore_bounds {buffer : Octets} {n : Nat} (h : ofOctets buffer = .needMore n) :
    1 ≤ n ∧ buffer.length + n ≤ 261 := by
  match buffer with
  | [] =>
    obtain rfl := Progress.needMore.inj h
    exact ⟨Nat.le_refl 1, by decide⟩
  | start :: rest =>
    rw [List.length_cons]
    obtain rfl | rfl | rfl | other := start_cases start
    · exact nomatch h
    · obtain ⟨less, rfl⟩ := needMore_of_ofShort h
      omega
    · obtain ⟨less, rfl⟩ | ⟨length, body, rfl, least, missing⟩ := needMore_of_ofLong h
      · omega
      · obtain ⟨less, rfl⟩ := needMore_of_ofBody missing
        have most : length.toNat < 256 := length.toNat_lt
        simp only [List.length_cons]
        omega
    · exact nomatch (other rest).symm.trans h

/-- **Fewer bytes than were missing leave exactly the others missing.** -/
theorem needMore_append {buffer more : Octets} {n : Nat} (h : ofOctets buffer = .needMore n)
    (less : more.length < n) : ofOctets (buffer ++ more) = .needMore (n - more.length) := by
  match buffer with
  | [] =>
    obtain rfl := Progress.needMore.inj h
    obtain rfl := List.eq_nil_of_length_eq_zero (Nat.lt_one_iff.mp less)
    rfl
  | start :: rest =>
    rw [List.cons_append]
    obtain rfl | rfl | rfl | other := start_cases start
    · exact nomatch h
    · obtain ⟨short, rfl⟩ := needMore_of_ofShort h
      rw [ofOctets_shortStart, ofShort_short] <;> rw [List.length_append]
      · rw [Nat.sub_sub]
      · omega
    · rw [ofOctets_longStart]
      obtain ⟨short, rfl⟩ | ⟨length, body, rfl, least, missing⟩ := needMore_of_ofLong h
      · rw [ofLong_short] <;> rw [List.length_append]
        · rw [Nat.sub_sub]
        · omega
      · obtain ⟨short, rfl⟩ := needMore_of_ofBody missing
        rw [List.cons_append, List.cons_append, ofLong_header _ _ least, ofBody_short] <;>
          rw [List.length_append]
        · rw [Nat.sub_sub]
        · omega
    · exact nomatch (other rest).symm.trans h

/-- **Every proper beginning of a frame on the wire wants more.** -/
theorem needMore_of_onWire {frame : Frame} {front back : Octets}
    (h : OnWire frame (front ++ back)) (proper : back ≠ []) :
    ∃ n, ofOctets front = .needMore n := by
  have whole : ofOctets (front ++ back) = .complete := by
    have complete := complete_of_onWire h []
    rwa [List.append_nil] at complete
  match verdict : ofOctets front with
  | .needMore n => exact ⟨n, rfl⟩
  | .malformed => exact nomatch (malformed_append verdict back).symm.trans whole
  | .complete =>
    -- A frame that ended inside the front would be read where the whole frame is read.
    obtain ⟨other, bytes, tail, wire, rfl⟩ := onWire_of_complete verdict
    have same : (bytes ++ tail ++ back) ++ [] = bytes ++ (tail ++ back) := by
      rw [List.append_nil, List.append_assoc]
    have nothing := (h.unique wire same).2
    exact absurd (List.append_eq_nil_iff.mp nothing.symm).2 proper

/-! ## Buffers that nothing judged on the way -/

/-- No proper beginning of the buffer was judged. -/
def Growing (buffer : Octets) : Prop :=
  ∀ front back, buffer = front ++ back → back ≠ [] → ∃ n, ofOctets front = .needMore n

theorem growing_nil : Growing [] := by
  intro front back split some
  exact absurd (List.append_eq_nil_iff.mp split.symm).2 some

theorem Growing.append {buffer bytes : Octets} {n : Nat} (h : Growing buffer)
    (missing : ofOctets buffer = .needMore n) (few : bytes.length ≤ n) :
    Growing (buffer ++ bytes) := by
  intro front back split some
  rcases List.append_eq_append_iff.mp split with ⟨more, rfl, rfl⟩ | ⟨more, rfl, rfl⟩
  · -- The front reaches into the new bytes, of which something is left.
    have less : more.length < n := by
      have pos := List.length_pos_iff.mpr some
      rw [List.length_append] at few
      omega
    exact ⟨_, needMore_append missing less⟩
  · by_cases none : more = []
    · subst none
      rw [List.append_nil] at missing
      exact ⟨n, missing⟩
    · exact h front more rfl none

theorem growing_of_onWire {frame : Frame} {bytes : Octets} (h : OnWire frame bytes) :
    Growing bytes := by
  intro front back split some
  subst split
  exact needMore_of_onWire h some

/-- A buffer that was completed by its last byte is one frame on the wire. -/
theorem Growing.onWire {buffer : Octets} (h : Growing buffer)
    (complete : ofOctets buffer = .complete) : ∃ frame, OnWire frame buffer := by
  obtain ⟨frame, bytes, tail, wire, rfl⟩ := onWire_of_complete complete
  by_cases none : tail = []
  · subst none
    rw [List.append_nil]
    exact ⟨frame, wire⟩
  · obtain ⟨n, missing⟩ := h bytes tail rfl none
    have whole := complete_of_onWire wire []
    rw [List.append_nil, missing] at whole
    exact nomatch whole

end Progress

end MeterBus
