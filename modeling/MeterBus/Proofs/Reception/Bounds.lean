import MeterBus.Proofs.Frame.Completion
import MeterBus.Proofs.Reception.Takings

/-! # Every reception is short

Whatever the decoder answers, and on any line, a reception makes a bounded number of reads and never
holds more than fits: each read but the last brings a byte or spends one of two silences, and a read
is made only if there is room for all it asks for. What a decoder can ask for at most is all the
bound depends on (`Closed.length_le`), so the decoder of the link layer, which never asks past the
longest frame, gets a tighter one.
-/
namespace MeterBus
set_option autoImplicit false

namespace Reception

variable {decoder : Decoder} {takings : List Taking} {past : List Octets} {ending : Ending}

/-! ## One read -/

/-- A read that was due when it was made and brought no more than it asked for. -/
structure Made (decoder : Decoder) (earlier : List Taking) (taking : Taking) : Prop where
  under : Underway decoder earlier
  due : Due decoder earlier taking.size
  few : taking.octets.length ≤ taking.size

theorem Underway.made {later earlier : List Taking} {taking : Taking}
    (h : Underway decoder (later ++ taking :: earlier)) : Made decoder earlier taking := by
  induction later with
  | nil =>
    cases h with
    | read before due few patient => exact ⟨before, due, few⟩
  | cons latest later ih =>
    cases h with
    | read before due few patient => exact ih before

theorem Closed.made {later earlier : List Taking} {taking : Taking}
    (h : Closed decoder (later ++ taking :: earlier) past ending) : Made decoder earlier taking := by
  generalize same : later ++ taking :: earlier = takings at h
  cases h with
  | complete before | malformed before | tooLarge before =>
    rw [← same] at before
    exact before.made
  | silent before due last =>
    rcases List.append_eq_cons_iff.mp same with ⟨rfl, first⟩ | ⟨others, rfl, rest⟩
    · obtain ⟨rfl, rfl⟩ := List.cons.inj first
      exact ⟨before, due, Nat.zero_le _⟩
    · rw [rest] at before
      exact before.made
  | failed before due =>
    rcases List.append_eq_cons_iff.mp same with ⟨rfl, first⟩ | ⟨others, rfl, rest⟩
    · obtain ⟨rfl, rfl⟩ := List.cons.inj first
      exact ⟨before, due, Nat.zero_le _⟩
    · rw [rest] at before
      exact before.made

theorem Made.length_held {earlier : List Taking} {taking : Taking}
    (h : Made decoder earlier taking) :
    (held (taking :: earlier)).length ≤ (held earlier).length + taking.size := by
  have few := h.few
  rw [held, List.length_append]
  omega

/-! ## All reads -/

theorem length_held_append (later earlier : List Taking) :
    (held earlier).length ≤ (held (later ++ earlier)).length := by
  induction later with
  | nil => exact Nat.le_refl _
  | cons taking later ih =>
    have grown : (held (taking :: later ++ earlier)).length =
        (held (later ++ earlier)).length + taking.octets.length := List.length_append
    omega

/-- Every read brought a byte or was silent. -/
theorem Underway.length_le (h : Underway decoder takings) :
    takings.length ≤ (held takings).length + silences takings := by
  induction h with
  | start => exact Nat.le_refl 0
  | @read earlier n bytes before due few patient ih =>
    rw [List.length_cons]
    cases bytes with
    | nil =>
      rw [held_silent, silences_silent]
      omega
    | cons byte bytes =>
      have grown : (held (⟨n, .ok (byte :: bytes)⟩ :: earlier)).length =
          (held earlier).length + (bytes.length + 1) := List.length_append
      rw [silences_bytes, grown]
      omega

theorem Closed.silences_le (h : Closed decoder takings past ending) :
    silences takings ≤ Link.silenceLimit := by
  cases h with
  | complete before | malformed before | tooLarge before => exact Nat.le_of_lt before.silences_lt
  | silent before due last =>
    rw [silences_silent]
    exact Nat.le_of_eq last
  | failed before due =>
    rw [silences_fault]
    exact Nat.le_of_lt before.silences_lt

/-- What no read asks past, no reception holds more than, and it reads at most twice more often. -/
theorem Closed.length_le (h : Closed decoder takings past ending) {limit : Nat}
    (within : ∀ earlier n, Due decoder earlier n → (held earlier).length + n ≤ limit) :
    takings.length ≤ limit + 2 ∧ (held takings).length ≤ limit := by
  cases takings with
  | nil => exact ⟨Nat.zero_le _, Nat.zero_le _⟩
  | cons taking earlier =>
    rw [← List.nil_append (taking :: earlier)] at h
    have made := h.made
    have asks := within earlier taking.size made.due
    have positive := made.due.positive
    have reads := made.under.length_le
    have few : silences earlier < 3 := made.under.silences_lt
    have grown := made.length_held
    rw [List.length_cons]
    constructor
    · omega
    · omega

/-! ## The decoder of the link layer -/

theorem asked_link (takings : List Taking) :
    asked Decoder.link takings = Progress.ofOctets (held takings) := by
  cases takings with
  | nil => rfl
  | cons taking earlier => rfl

theorem Due.link_within {earlier : List Taking} {n : Nat} (h : Due Decoder.link earlier n) :
    (held earlier).length + n ≤ 261 := by
  have wanted := h.wanted
  rw [asked_link] at wanted
  exact (Progress.needMore_bounds wanted).2

theorem Closed.link_ending (h : Closed Decoder.link takings past ending) : ending ≠ .tooLarge := by
  cases h with
  | complete | malformed | silent | failed => simp
  | tooLarge before wanted excess =>
    rw [asked_link] at wanted
    have bounds := (Progress.needMore_bounds wanted).2
    rw [Link.capacity] at excess
    omega

/-! ## The bounds -/

/-- **A reception ends within fixed bounds whatever the decoder does.** On any line, the reads are
at most 2050, of which at most three are silent; each asks for at least one byte and for no more than
there is room left for; and no buffer outgrows the capacity, so that neither the room left nor the
end of a read is ever out of range. With the decoder of the link layer there are at most 263 reads
for at most 261 bytes, and it never wants too much. -/
theorem reception_bounded {σ : Type} (source : Source σ) (decoder : Decoder) (line : σ) :
    source.Ran line (tape source decoder line) (start source decoder line).line ∧
      (start source decoder line).buffer = held (tape source decoder line) ∧
      (tape source decoder line).length ≤ 2050 ∧
      silences (tape source decoder line) ≤ 3 ∧
      (∀ later earlier, tape source decoder line = later ++ earlier →
        (held earlier).length ≤ Link.capacity) ∧
      (∀ later taking earlier, tape source decoder line = later ++ taking :: earlier →
        1 ≤ taking.size ∧ taking.size ≤ Link.capacity - (held earlier).length ∧
          (held earlier).length + taking.size ≤ Link.capacity) ∧
      (tape source Decoder.link line).length ≤ 263 ∧
      (held (tape source Decoder.link line)).length ≤ 261 ∧
      (start source Decoder.link line).ending ≠ .tooLarge := by
  obtain ⟨closed, buffer⟩ := start_recorded source decoder line
  obtain ⟨linkClosed, -⟩ := start_recorded source Decoder.link line
  obtain ⟨linkReads, linkHeld⟩ := linkClosed.length_le fun _ _ due => due.link_within
  have room : ∀ earlier n, Due decoder earlier n → (held earlier).length + n ≤ Link.capacity :=
    fun _ _ due => due.room
  obtain ⟨reads, all⟩ := closed.length_le room
  refine ⟨start_ran source decoder line, buffer, reads, closed.silences_le, ?_, ?_, linkReads,
    linkHeld, linkClosed.link_ending⟩
  · intro later earlier split
    have part := length_held_append later earlier
    rw [← split] at part
    omega
  · intro later taking earlier split
    rw [split] at closed
    have due := closed.made.due
    have fits := due.room
    have positive := due.positive
    refine ⟨positive, ?_, fits⟩
    omega

/-- A decoder that never has enough, on a line that falls silent in between: what it wants behind
the three bytes received is no longer read. -/
theorem reception_bounded_greedy :
    let decoder :=
      Decoder.scripted [.needMore 2047, .needMore 2045, .needMore 0xFFFFFFFFFFFFFFFF] .ack
    let adapter : Adapter := { incoming := [.data [1], .data [2, 3], .silence, .data [4]] }
    tape Adapter.source decoder adapter =
        [⟨2045, .ok []⟩] ++ ⟨2047, .ok [2, 3]⟩ :: [⟨1, .ok [1]⟩] ∧
      1 ≤ 2047 ∧ 2047 ≤ Link.capacity - (held [⟨1, .ok [1]⟩]).length ∧
      (held [⟨1, .ok [1]⟩]).length + 2047 ≤ Link.capacity ∧
      (start Adapter.source decoder adapter).buffer =
        held (tape Adapter.source decoder adapter) := by
  intro decoder adapter
  have record : tape Adapter.source decoder adapter =
      [⟨2045, .ok []⟩] ++ ⟨2047, .ok [2, 3]⟩ :: [⟨1, .ok [1]⟩] := by
    simp [adapter, decoder, tape, start, gather, Source.noted, Adapter.source, Adapter.read,
      Adapter.take, Decoder.scripted, Gathered.noting, Link.capacity, Link.silenceLimit]
  obtain ⟨-, buffer, -, -, -, reads, -⟩ := reception_bounded Adapter.source decoder adapter
  obtain ⟨positive, room, fits⟩ := reads _ _ _ record
  exact ⟨record, positive, room, fits, buffer⟩

end Reception

end MeterBus
