import Mathlib.Algebra.GroupWithZero.Nat
import MeterBus.Proofs.Frame.Acceptance

/-! # Walking to the end of a frame

A reader that takes from some data exactly what the incremental check asks for, starting with
nothing. It asks at most three times, for sizes that follow from the start byte and the length byte
alone, and it stops behind the frame or where no frame can come any more. The invariant of the walk
is `Progress.Growing`: nothing was judged before the last byte taken.

* `walk`: the walk over any data.
* `walk_needMore`, `walk_unmet`, `walk_judged`: its three kinds of step.
* `requests_walk`: the sizes asked for.
* `progress_incremental`: the contract of the incremental check.
-/
namespace MeterBus
set_option autoImplicit false

namespace Progress

/-- What a walk comes to: the sizes it asked for, the last of them perhaps in vain, the bytes it
took and those it left. -/
structure Walk where
  requests : List Nat
  taken : Octets
  left : Octets
  deriving DecidableEq, Repr

/-- Takes what is missing as long as something is missing and there is enough of it. -/
def walk (taken left : Octets) : Walk :=
  match _missing : ofOctets taken with
  | .needMore n =>
    if n ≤ left.length then
      let further := walk (taken ++ left.take n) (left.drop n)
      { further with requests := n :: further.requests }
    else ⟨[n], taken, left⟩
  | _ => ⟨[], taken, left⟩
termination_by left.length
decreasing_by
  have positive := (needMore_bounds _missing).1
  rw [List.length_drop]
  omega

/-! ## Steps -/

section Steps

variable {taken : Octets} (left : Octets)

theorem walk_needMore {n : Nat} (missing : ofOctets taken = .needMore n) (enough : n ≤ left.length) :
    walk taken left =
      { walk (taken ++ left.take n) (left.drop n) with
        requests := n :: (walk (taken ++ left.take n) (left.drop n)).requests } := by
  rw [walk]
  split
  case h_1 m missing' =>
    obtain rfl := Progress.needMore.inj (missing'.symm.trans missing)
    exact if_pos enough
  case h_2 other => exact absurd missing (other n)

theorem walk_unmet {n : Nat} (missing : ofOctets taken = .needMore n) (short : left.length < n) :
    walk taken left = ⟨[n], taken, left⟩ := by
  rw [walk]
  split
  case h_1 m missing' =>
    obtain rfl := Progress.needMore.inj (missing'.symm.trans missing)
    exact if_neg (Nat.not_le.mpr short)
  case h_2 other => exact absurd missing (other n)

theorem walk_judged (judged : ∀ n, ofOctets taken ≠ .needMore n) :
    walk taken left = ⟨[], taken, left⟩ := by
  rw [walk]
  split
  case h_1 n missing => exact absurd missing (judged n)
  case h_2 => rfl

end Steps

theorem judged_iff (answer : Progress) :
    (∀ n, answer ≠ .needMore n) ↔ answer = .complete ∨ answer = .malformed := by
  cases answer <;> simp

/-! ## The sizes asked for -/

theorem requests_judged {taken : Octets} (judged : ∀ n, ofOctets taken ≠ .needMore n)
    (left : Octets) : (walk taken left).requests = [] := by
  rw [walk_judged left judged]

/-- When all that is missing settles the matter, nothing else is asked for. -/
theorem requests_last {taken : Octets} {n : Nat} (missing : ofOctets taken = .needMore n)
    (settled : ∀ more, more.length = n → ∀ m, ofOctets (taken ++ more) ≠ .needMore m)
    (left : Octets) : (walk taken left).requests = [n] := by
  rcases Nat.lt_or_ge left.length n with short | enough
  · rw [walk_unmet left missing short]
  · have length : (left.take n).length = n := by
      rw [List.length_take]
      omega
    rw [walk_needMore left missing enough]
    simp only [requests_judged (settled _ length)]

theorem requests_short (left : Octets) : (walk [Link.shortStart] left).requests = [4] := by
  apply requests_last rfl
  intro more all m wanting
  have rest : ofShort more = .needMore m := wanting
  have less := (needMore_of_ofShort rest).1
  omega

theorem requests_body {length : UInt8} (least : 3 ≤ length.toNat) (left : Octets) :
    (walk [Link.longStart, length, length] left).requests = [length.toNat + 3] := by
  apply requests_last
  · rw [ofOctets_longStart, ofLong_header length [] least]
    exact ofBody_short (Nat.succ_pos _)
  · intro more all m wanting
    rw [List.cons_append, ofOctets_longStart] at wanting
    have body : ofBody length.toNat more = .needMore m :=
      (ofLong_header length more least).symm.trans wanting
    have less := (needMore_of_ofBody body).1
    omega

theorem requests_long (left : Octets) :
    (walk [Link.longStart] left).requests = [2] ∨
      ∃ length : UInt8, left.head? = some length ∧
        (walk [Link.longStart] left).requests = [2, length.toNat + 3] := by
  have missing : ofOctets [Link.longStart] = .needMore 2 := rfl
  match left with
  | [] | [_] => exact Or.inl (by rw [walk_unmet _ missing (by simp)])
  | first :: second :: rest =>
    rw [walk_needMore _ missing (by simp)]
    by_cases header : first = second ∧ 3 ≤ first.toNat
    · obtain ⟨rfl, least⟩ := header
      exact Or.inr ⟨first, rfl, congrArg (List.cons 2) (requests_body least rest)⟩
    · have given : ofOctets [Link.longStart, first, second] = .malformed := if_neg header
      refine Or.inl (congrArg (List.cons 2) ?_)
      exact requests_judged ((judged_iff _).mpr (Or.inr given)) rest

/-- The start byte is asked for, then the rest of a short frame, or the two length bytes of a long
one and its body. -/
theorem requests_walk (data : Octets) :
    (walk [] data).requests = [1] ∨ (walk [] data).requests = [1, 4] ∨
      (walk [] data).requests = [1, 2] ∨
      ∃ length : UInt8, data[1]? = some length ∧
        (walk [] data).requests = [1, 2, length.toNat + 3] := by
  have missing : ofOctets [] = .needMore 1 := rfl
  match data with
  | [] => exact Or.inl (by rw [walk_unmet _ missing (by simp)])
  | start :: rest =>
    have first : (walk [] (start :: rest)).requests = 1 :: (walk [start] rest).requests := by
      rw [walk_needMore _ missing (by simp)]
      rfl
    rw [first]
    obtain rfl | rfl | rfl | other := start_cases start
    · have content : ofOctets [Link.ackStart] = .complete := rfl
      rw [requests_judged ((judged_iff _).mpr (Or.inl content))]
      exact Or.inl rfl
    · rw [requests_short]
      exact Or.inr (Or.inl rfl)
    · obtain only | ⟨length, second, both⟩ := requests_long rest
      · rw [only]
        exact Or.inr (Or.inr (Or.inl rfl))
      · refine Or.inr (Or.inr (Or.inr ⟨length, ?_, by rw [both]⟩))
        rw [List.getElem?_cons_succ, ← List.head?_eq_getElem?]
        exact second
    · rw [requests_judged ((judged_iff _).mpr (Or.inr (other [])))]
      exact Or.inl rfl

/-! ## The end of a walk -/

/-- A walk that judged its bytes took all that it asked for; otherwise the data ran out. -/
inductive Walk.Ended (before : Octets) (walk : Walk) : Prop where
  | judged (verdict : ofOctets walk.taken = .complete ∨ ofOctets walk.taken = .malformed)
    (all : walk.taken.length = before.length + walk.requests.sum)
  | ranOut (n : Nat) (missing : ofOctets walk.taken = .needMore n) (short : walk.left.length < n)

theorem walk_splits (taken left : Octets) :
    (walk taken left).taken ++ (walk taken left).left = taken ++ left := by
  fun_induction walk taken left with
  | case1 taken left n missing enough further ih =>
    rw [List.append_assoc, List.take_append_drop] at ih
    exact ih
  | case2 => rfl
  | case3 => rfl

theorem walk_growing (taken left : Octets) (h : Growing taken) :
    Growing (walk taken left).taken := by
  fun_induction walk taken left with
  | case1 taken left n missing enough further ih =>
    apply ih
    apply h.append missing
    rw [List.length_take]
    exact Nat.min_le_left n left.length
  | case2 => exact h
  | case3 => exact h

theorem walk_ended (taken left : Octets) : (walk taken left).Ended taken := by
  fun_induction walk taken left with
  | case1 taken left n missing enough further ih =>
    cases ih with
    | judged verdict all =>
      refine .judged verdict (all.trans ?_)
      show _ = taken.length + (n :: further.requests).sum
      rw [List.length_append, List.length_take, Nat.min_eq_left enough, List.sum_cons,
        Nat.add_assoc]
    | ranOut m wanting short => exact .ranOut m wanting short
  | case2 taken left n missing short =>
    exact .ranOut n missing (Nat.not_le.mp short)
  | case3 taken left other => exact .judged ((judged_iff _).mp other) rfl

theorem linkFrame_walk (data : Octets) :
    (∃ frame, Decoder.linkFrame (walk [] data).taken = .ok frame) ↔
      ofOctets (walk [] data).taken = .complete := by
  constructor
  · intro decoded
    exact ((Frame.linkFrame_iff_complete _).mp decoded).1
  · intro complete
    obtain ⟨frame, wire⟩ := (walk_growing [] data growing_nil).onWire complete
    exact ⟨frame, wire.linkFrame⟩

/-! ## The contract of the check -/

/-- What is asked for belongs to the frame at hand, wherever that frame ends. -/
theorem needMore_within {buffer more bytes rest : Octets} {frame : Frame} {n : Nat}
    (missing : ofOctets buffer = .needMore n) (packed : frame.encode = .ok bytes)
    (same : buffer ++ more = bytes ++ rest) : buffer.length + n ≤ bytes.length := by
  have complete := complete_of_onWire (Frame.encode_ok packed)
  rcases List.append_eq_append_iff.mp same with ⟨front, rfl, -⟩ | ⟨tail, rfl, -⟩
  · -- The buffer lies inside the frame, which fewer bytes than asked for cannot complete.
    rcases Nat.lt_or_ge front.length n with less | enough
    · have wanting := needMore_append missing less
      have whole := complete []
      rw [List.append_nil, wanting] at whole
      exact nomatch whole
    · rw [List.length_append]
      omega
  · exact nomatch missing.symm.trans (complete tail)

theorem judged_append {buffer : Octets}
    (judged : ofOctets buffer = .complete ∨ ofOctets buffer = .malformed) (more : Octets) :
    ofOctets (buffer ++ more) = ofOctets buffer := by
  rcases judged with complete | malformed
  · rw [complete_append complete, complete]
  · rw [malformed_append malformed, malformed]

/-- **The incremental check is coherent.** What it asks for is at least one byte, leads past no
frame and can be handed in piece by piece; a judgement stands whatever follows; and a reader that
follows it is at the end after one to three requests of known sizes, with bytes that decode exactly
if the check is content. -/
theorem progress_incremental (buffer : Octets) :
    (∀ n, ofOctets buffer = .needMore n →
      1 ≤ n ∧ buffer.length + n ≤ 261 ∧
        (∀ more : Octets, more.length < n →
          ofOctets (buffer ++ more) = .needMore (n - more.length)) ∧
        ∀ (frame : Frame) (bytes more rest : Octets), frame.encode = .ok bytes →
          buffer ++ more = bytes ++ rest → buffer.length + n ≤ bytes.length) ∧
      (ofOctets buffer = .complete ∨ ofOctets buffer = .malformed →
        ∀ more, ofOctets (buffer ++ more) = ofOctets buffer) ∧
      (walk [] buffer).taken ++ (walk [] buffer).left = buffer ∧
      ((walk [] buffer).requests = [1] ∨ (walk [] buffer).requests = [1, 4] ∨
        (walk [] buffer).requests = [1, 2] ∨
        ∃ length : UInt8, buffer[1]? = some length ∧
          (walk [] buffer).requests = [1, 2, length.toNat + 3]) ∧
      (walk [] buffer).Ended [] ∧
      ((∃ frame, Decoder.linkFrame (walk [] buffer).taken = .ok frame) ↔
        ofOctets (walk [] buffer).taken = .complete) := by
  refine ⟨?_, judged_append, walk_splits [] buffer, requests_walk buffer, walk_ended [] buffer,
    linkFrame_walk buffer⟩
  intro n missing
  obtain ⟨positive, room⟩ := needMore_bounds missing
  refine ⟨positive, room, ?_, ?_⟩
  · intro more less
    exact needMore_append missing less
  · intro frame bytes more rest packed same
    exact needMore_within missing packed same

/-- Behind the length bytes of a control frame, and behind two that differ. -/
theorem progress_incremental_header :
    ofOctets [0x68, 3, 3] = .needMore 6 ∧ ofOctets ([0x68, 3, 3] ++ [0x68, 8]) = .needMore 4 ∧
      ofOctets [0x68, 3, 4] = .malformed ∧
      ∀ more, ofOctets ([0x68, 3, 4] ++ more) = .malformed := by
  have missing : ofOctets [0x68, 3, 3] = .needMore 6 := rfl
  have malformed : ofOctets [0x68, 3, 4] = .malformed := rfl
  obtain ⟨-, -, rest, -⟩ := (progress_incremental [0x68, 3, 3]).1 6 missing
  exact ⟨missing, rest [0x68, 8] (by decide), malformed,
    (progress_incremental [0x68, 3, 4]).2.1 (Or.inr malformed)⟩

example : walk [] [0x68, 3, 3, 0x68, 8, 1, 0x72, 0x7B, 0x16, 0xE5] =
    ⟨[1, 2, 6], [0x68, 3, 3, 0x68, 8, 1, 0x72, 0x7B, 0x16], [0xE5]⟩ := by
  cbv

end Progress

end MeterBus
