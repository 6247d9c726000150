import Mathlib.Data.List.Basic
import MeterBus.Proofs.Frame.Completion

/-! # One byte read differently

A frame on the wire of which one byte arrives as another. As long as the bytes that fix the length
of the frame are spared, nothing is judged before its last byte and then the frame is refused: the
sum of the body cannot stay the same when a single byte of it changes.

* `Octets.total_altered`: the sum notices one byte.
* `exists_altered`: a body with its checksum and stop byte, altered.
* `Progress.Refused`: nothing is judged before the end, and then the buffer is refused.
* `Frame.settled`, `Frame.OnWire.refused`: the bytes that fix the length, and a change behind them.
-/
namespace MeterBus
open MeterBus.Frame (OnWire toNat_length)
set_option autoImplicit false

/-! ## Sums -/

namespace Octets

theorem foldl_total (bytes : Octets) (first : UInt8) :
    bytes.foldl (fun sum byte => sum + byte) first = first + total bytes := by
  induction bytes generalizing first with
  | nil => exact (UInt8.add_zero first).symm
  | cons byte bytes ih =>
    have zero : total (byte :: bytes) = byte + total bytes := by
      rw [total, List.foldl_cons, UInt8.zero_add, ih]
    rw [List.foldl_cons, ih, zero, UInt8.add_assoc]

theorem total_append (first second : Octets) :
    total (first ++ second) = total first + total second := by
  rw [total, List.foldl_append, foldl_total]
  rfl

theorem total_cons (byte : UInt8) (bytes : Octets) : total (byte :: bytes) = byte + total bytes := by
  rw [total, List.foldl_cons, UInt8.zero_add, foldl_total]

theorem total_altered {byte other : UInt8} (changed : other ≠ byte) (front back : Octets) :
    total (front ++ other :: back) ≠ total (front ++ byte :: back) := by
  intro same
  rw [total_append, total_append, total_cons, total_cons] at same
  have sums := (UInt8.add_right_inj (total front)).mp same
  exact changed ((UInt8.add_left_inj (total back)).mp sums)

end Octets

/-! ## A body, its checksum and its stop byte -/

/-- Wherever the altered byte lies, the body is as long as before, and checksum and stop byte are
not both right. -/
theorem exists_altered {body front back : Octets} {sum stop byte other : UInt8}
    (right : sum = Octets.total body) (split : body ++ [sum, stop] = front ++ byte :: back)
    (changed : other ≠ byte) :
    ∃ body' sum' stop', front ++ other :: back = body' ++ [sum', stop'] ∧
      body'.length = body.length ∧ ¬ (sum' = Octets.total body' ∧ stop' = stop) := by
  rcases List.append_eq_append_iff.mp split with ⟨more, rfl, rest⟩ | ⟨more, rfl, rest⟩
  · -- The byte lies behind the body.
    match more with
    | [] =>
      obtain ⟨rfl, rfl⟩ := List.cons.inj rest
      refine ⟨body, other, stop, ?_, rfl, fun both => changed (both.1.trans right.symm)⟩
      rw [List.append_nil]
    | [first] =>
      rw [List.singleton_append] at rest
      obtain ⟨rfl, behind⟩ := List.cons.inj rest
      obtain ⟨rfl, rfl⟩ := List.cons.inj behind
      refine ⟨body, sum, other, ?_, rfl, fun both => changed both.2⟩
      rw [List.append_assoc, List.singleton_append]
    | _ :: _ :: more =>
      have count := congrArg List.length rest
      simp only [List.length_cons, List.length_append, List.length_nil] at count
      omega
  · match more with
    | [] =>
      obtain ⟨rfl, rfl⟩ := List.cons.inj rest
      rw [List.append_nil] at right ⊢
      exact ⟨front, other, stop, rfl, rfl, fun both => changed (both.1.trans right.symm)⟩
    | inner :: more =>
      rw [List.cons_append] at rest
      obtain ⟨rfl, rfl⟩ := List.cons.inj rest
      refine ⟨front ++ other :: more, sum, stop, ?_, ?_, fun both => ?_⟩
      · rw [List.append_assoc, List.cons_append]
      · rw [List.length_append, List.length_append, List.length_cons, List.length_cons]
      · exact Octets.total_altered changed front more (both.1.symm.trans right)

/-! ## Buffers on their way -/

namespace Progress

theorem growing_short {rest : Octets} (few : rest.length ≤ 4) :
    Growing (Link.shortStart :: rest) := by
  have started : Growing ([] ++ [Link.shortStart]) := growing_nil.append rfl (Nat.le_refl 1)
  exact started.append (show ofOctets [Link.shortStart] = .needMore 4 from rfl) few

theorem growing_long {length : UInt8} (least : 3 ≤ length.toNat) {rest : Octets}
    (few : rest.length ≤ length.toNat + 3) :
    Growing (Link.longStart :: length :: length :: rest) := by
  have started : Growing ([] ++ [Link.longStart]) := growing_nil.append rfl (Nat.le_refl 1)
  have header : Growing ([Link.longStart] ++ [length, length]) :=
    started.append (show ofOctets [Link.longStart] = .needMore 2 from rfl) (Nat.le_refl 2)
  have missing : ofOctets [Link.longStart, length, length] = .needMore (length.toNat + 3) := by
    rw [ofOctets_longStart, ofLong_header length [] least, ofBody_short (Nat.succ_pos _)]
    rfl
  exact header.append missing few

end Progress

/-! ## The altered frame -/

namespace Progress

def Refused (buffer : Octets) : Prop := Growing buffer ∧ ofOctets buffer = .malformed

variable {front back : Octets} {byte other : UInt8} (changed : other ≠ byte)
include changed

theorem refused_short {control address : UInt8}
    (split : [control, address, control + address, Link.stop] = front ++ byte :: back) :
    Refused (Link.shortStart :: (front ++ other :: back)) := by
  have sum : control + address = Octets.total [control, address] := by
    rw [Octets.total_cons, Octets.total_cons]
    exact congrArg (control + ·) (UInt8.add_zero address).symm
  obtain ⟨body, sum', stop, altered, two, wrong⟩ := exists_altered sum split changed
  obtain ⟨control', address', rfl⟩ := List.length_eq_two.mp two
  rw [altered]
  refine ⟨growing_short (Nat.le_refl 4), if_neg ?_⟩
  rintro ⟨rfl, rfl⟩
  refine wrong ⟨?_, rfl⟩
  rw [Octets.total_cons, Octets.total_cons]
  exact congrArg (control' + ·) (UInt8.add_zero address').symm

theorem refused_long {body : Octets} (least : 3 ≤ body.length) (most : body.length < 256)
    (split : Link.longStart :: (body ++ [Octets.total body, Link.stop]) = front ++ byte :: back) :
    Refused (Link.longStart :: body.length.toUInt8 :: body.length.toUInt8 ::
      (front ++ other :: back)) := by
  have count := toNat_length most
  have length := congrArg List.length split
  simp only [List.length_cons, List.length_append, List.length_nil] at length
  rw [← count] at least
  refine ⟨growing_long least ?_, ?_⟩
  · rw [count, List.length_append, List.length_cons]
    omega
  rw [ofOctets_longStart, ofLong_header _ _ least, count]
  -- Either the second start byte is the one that changed, or something behind it.
  match front with
  | [] =>
    obtain ⟨rfl, rfl⟩ := List.cons.inj split
    have whole := ofBody_whole other (Octets.total body) Link.stop body []
    rw [if_neg fun all => changed all.1] at whole
    exact whole
  | mark :: front =>
    rw [List.cons_append] at split ⊢
    obtain ⟨rfl, rest⟩ := List.cons.inj split
    obtain ⟨body', sum, stop, altered, same, wrong⟩ := exists_altered rfl rest changed
    have whole := ofBody_whole Link.longStart sum stop body' []
    rw [if_neg fun all => wrong all.2, same] at whole
    rw [altered]
    exact whole

end Progress

namespace Frame

/-- How many bytes at the front of a frame fix how long it is. -/
def settled : FrameType → Nat
  | .ack | .short => 1
  | .control | .long => Link.longHeader

theorem settled_canonical (frame : Frame) : settled frame.canonical.type = settled frame.type := by
  unfold canonical
  cases type : frame.type with
  | ack | short | control => rfl
  | long =>
    simp only [sealed]
    split <;> rfl

/-- **A frame of which one byte behind its header changed is refused, at its end and not before.** -/
theorem OnWire.refused {frame : Frame} {front back : Octets} {byte other : UInt8}
    (wire : OnWire frame (front ++ byte :: back)) (behind : settled frame.type ≤ front.length)
    (changed : other ≠ byte) : Progress.Refused (front ++ other :: back) := by
  generalize split : front ++ byte :: back = bytes at wire
  cases wire with
  | ack =>
    have length := congrArg List.length split
    simp only [List.length_append, List.length_cons, List.length_nil] at length
    have one : 1 ≤ front.length := behind
    omega
  | short control address =>
    match front with
    | [] => exact absurd behind (Nat.not_succ_le_zero 0)
    | start :: front =>
      rw [List.cons_append] at split ⊢
      obtain ⟨rfl, rest⟩ := List.cons.inj split
      exact Progress.refused_short changed rest.symm
  | long control address information data fits =>
    have three : 3 ≤ front.length := by
      rw [long_eq] at behind
      cases data with
      | nil => exact behind
      | cons first data => exact behind
    match front with
    | [] | [_] | [_, _] => simp only [List.length_cons, List.length_nil] at three; omega
    | start :: first :: second :: front =>
      simp only [List.cons_append] at split ⊢
      obtain ⟨rfl, lengths⟩ := List.cons.inj split
      obtain ⟨rfl, second⟩ := List.cons.inj lengths
      obtain ⟨rfl, rest⟩ := List.cons.inj second
      apply Progress.refused_long changed _ _ rest.symm
      · simp only [List.length_cons]
        omega
      · simp only [List.length_cons]
        omega

end Frame

end MeterBus
