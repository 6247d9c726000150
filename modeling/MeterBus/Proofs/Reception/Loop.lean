import MeterBus.Proofs.Line.Items

/-! # The loop, one item at a time

For a decoder that is coherent, reading in bulk and reading item by item come to the same. The loop
on any source is tied to the loop on the bare items in its view (`gather_seen`), so that every
statement about a reception can be proved where each round takes a single item.

* `Decoder.Coherent`: pure, and a shorter continuation than asked for leaves the rest missing.
* `Gathered.seen`: buffer, ending and what is left in view.
* `gather_complete` to `gather_octets`: the rounds of the loop.
-/
namespace MeterBus
set_option autoImplicit false

/-- The decoder answers from the buffer alone, and of what it reports missing it takes any part for
what it is. -/
structure Decoder.Coherent (decoder : Decoder) : Prop where
  progress_pure : ∀ past past' buffer, decoder.progress past buffer = decoder.progress past' buffer
  complete_pure : ∀ past past' buffer, decoder.complete past buffer = decoder.complete past' buffer
  needMore_append : ∀ past buffer n more, decoder.progress past buffer = .needMore n →
    more.length < n → decoder.progress past (buffer ++ more) = .needMore (n - more.length)

namespace Reception

variable {σ : Type}

/-- What a reception leaves: buffer, ending, and the items still in view. -/
def Gathered.seen (view : σ → List Item) (gathered : Gathered σ) : Octets × Ending × List Item :=
  (gathered.buffer, gathered.ending, view gathered.line)

/-! ## Rounds -/

section Rounds

variable (source : Source σ) (decoder : Decoder) (line : σ) (buffer : Octets) (silences : Nat)
  (past : List Octets) (view : σ → List Item)

theorem gather_complete :
    (gather source decoder line buffer silences past .complete).seen view =
      (buffer, .complete, view line) := by
  rw [gather]
  rfl

theorem gather_malformed :
    (gather source decoder line buffer silences past .malformed).seen view =
      (buffer, .malformed, view line) := by
  rw [gather]
  rfl

theorem gather_zero :
    (gather source decoder line buffer silences past (.needMore 0)).seen view =
      (buffer, .complete, view line) := by
  rw [gather]
  rfl

theorem gather_tooLarge {missing : Nat} (excess : Link.capacity - buffer.length < missing + 1) :
    (gather source decoder line buffer silences past (.needMore (missing + 1))).seen view =
      (buffer, .tooLarge, view line) := by
  rw [gather, if_pos excess]
  rfl

variable {line} {missing : Nat} {next : σ} (fits : ¬ Link.capacity - buffer.length < missing + 1)
include fits

theorem gather_fault {fault : IoFault}
    (read : source.read line (missing + 1) = (.error fault, next)) :
    (gather source decoder line buffer silences past (.needMore (missing + 1))).seen view =
      (buffer, .failed fault, view next) := by
  rw [gather, if_neg fits, read]
  rfl

theorem gather_lastPause (read : source.read line (missing + 1) = (.ok [], next))
    (last : ¬ silences + 1 < Link.silenceLimit) :
    (gather source decoder line buffer silences past (.needMore (missing + 1))).seen view =
      (buffer, .silent, view next) := by
  rw [gather, if_neg fits, read]
  simp only [if_neg last]
  rfl

theorem gather_pause (read : source.read line (missing + 1) = (.ok [], next))
    (more : silences + 1 < Link.silenceLimit) :
    (gather source decoder line buffer silences past (.needMore (missing + 1))).seen view =
      (gather source decoder next buffer (silences + 1) (buffer :: past)
        (decoder.progress past buffer)).seen view := by
  rw [gather, if_neg fits, read]
  simp only [if_pos more]
  rfl

theorem gather_bytes {byte : UInt8} {bytes : Octets}
    (read : source.read line (missing + 1) = (.ok (byte :: bytes), next)) :
    (gather source decoder line buffer silences past (.needMore (missing + 1))).seen view =
      (gather source decoder next (buffer ++ byte :: bytes) silences
        ((buffer ++ byte :: bytes) :: past)
        (decoder.progress past (buffer ++ byte :: bytes))).seen view := by
  rw [gather, if_neg fits, read]
  rfl

end Rounds

/-! ## What every read keeps -/

theorem gather_preserves {source : Source σ} {decoder : Decoder} {P : σ → Prop}
    (keeps : ∀ line size, P line → P (source.read line size).2) (line : σ) (buffer : Octets)
    (silences : Nat) (past : List Octets) (answer : Progress) (h : P line) :
    P (gather source decoder line buffer silences past answer).line := by
  fun_induction gather source decoder line buffer silences past answer with
  | case1 | case2 | case3 | case4 => exact h
  | case5 line buffer silences past missing fits fault next read
  | case7 line buffer silences past missing fits next read last =>
    have kept := keeps line (missing + 1) h
    rwa [read] at kept
  | case6 line buffer silences past missing fits next read more ih =>
    have kept := keeps line (missing + 1) h
    rw [read] at kept
    exact ih kept
  | case8 line buffer silences past missing fits byte bytes next read longer ih =>
    have kept := keeps line (missing + 1) h
    rw [read] at kept
    exact ih kept

/-! ## Many bytes at once -/

/-- The answer stays good for a part of what it asks for. -/
def Steady (decoder : Decoder) (buffer : Octets) (answer : Progress) : Prop :=
  ∀ n more past, answer = .needMore n → more ≠ [] → more.length < n →
    decoder.progress past (buffer ++ more) = .needMore (n - more.length)

theorem steady_progress {decoder : Decoder} (coherent : decoder.Coherent) (past : List Octets)
    (buffer : Octets) : Steady decoder buffer (decoder.progress past buffer) := by
  intro n more past' answer _ less
  rw [coherent.progress_pure past' past]
  exact coherent.needMore_append past buffer n more answer less

theorem steady_start (decoder : Decoder) : Steady decoder [] (.needMore 1) := by
  intro n more past answer some less
  obtain rfl := Progress.needMore.inj answer
  exact absurd (List.eq_nil_of_length_eq_zero (Nat.lt_one_iff.mp less)) some

/-- Bytes that were asked for together, taken one at a time. -/
theorem gather_octets {decoder : Decoder} (coherent : decoder.Coherent) (rest : List Item)
    (silences : Nat) (asked : List Octets) {bytes : Octets} (some : bytes ≠ []) {buffer : Octets}
    {missing : Nat} (past : List Octets) (few : bytes.length ≤ missing + 1)
    (fits : ¬ Link.capacity - buffer.length < missing + 1)
    (steady : Steady decoder buffer (.needMore (missing + 1))) :
    ∃ past', (gather Item.source decoder (bytes.map .octet ++ rest) buffer silences past
        (.needMore (missing + 1))).seen id =
      (gather Item.source decoder rest (buffer ++ bytes) silences past'
        (decoder.progress asked (buffer ++ bytes))).seen id := by
  induction bytes generalizing buffer missing past with
  | nil => exact absurd rfl some
  | cons byte bytes ih =>
    have read := Item.source_octet byte (bytes.map .octet ++ rest) (Nat.succ_pos missing)
    have round := gather_bytes Item.source decoder buffer silences past id fits read
    rw [List.map_cons, List.cons_append, round]
    cases bytes with
    | nil =>
      rw [coherent.progress_pure past asked]
      exact ⟨_, rfl⟩
    | cons second bytes =>
      simp only [List.length_cons] at few
      obtain ⟨fewer, rfl⟩ := Nat.exists_eq_add_of_le' (show 1 ≤ missing by omega)
      have answer : decoder.progress past (buffer ++ [byte]) = .needMore (fewer + 1) :=
        steady (fewer + 1 + 1) [byte] past rfl (List.cons_ne_nil byte []) (by simp)
      have steady' := steady_progress coherent past (buffer ++ [byte])
      have fits' : ¬ Link.capacity - (buffer ++ [byte]).length < fewer + 1 := by
        rw [List.length_append, List.length_singleton]
        omega
      have few' : (second :: bytes).length ≤ fewer + 1 := by
        rw [List.length_cons]
        omega
      rw [answer] at steady' ⊢
      have tail := ih (List.cons_ne_nil second bytes) ((buffer ++ [byte]) :: past) few' fits' steady'
      rwa [List.append_assoc, List.singleton_append] at tail

/-- **On any source, the loop with a coherent decoder sees what it sees item by item.** -/
theorem gather_seen {source : Source σ} {view : σ → List Item} {decoder : Decoder}
    (plays : source.Plays view) (coherent : decoder.Coherent) (line : σ) (buffer : Octets)
    (silences : Nat) (past past' : List Octets) (answer : Progress)
    (steady : Steady decoder buffer answer) :
    (gather source decoder line buffer silences past answer).seen view =
      (gather Item.source decoder (view line) buffer silences past' answer).seen id := by
  fun_induction gather source decoder line buffer silences past answer generalizing past' with
  | case1 line buffer silences past =>
    rw [gather_complete]
    rfl
  | case2 line buffer silences past =>
    rw [gather_zero]
    rfl
  | case3 line buffer silences past =>
    rw [gather_malformed]
    rfl
  | case4 line buffer silences past missing excess =>
    rw [gather_tooLarge _ _ _ _ _ _ _ excess]
    rfl
  | case5 line buffer silences past missing fits fault next read =>
    have reads := plays.of_read read
    rw [gather_fault _ _ _ _ _ _ fits (reads.source_fault _)]
    rfl
  | case6 line buffer silences past missing fits next read more ih =>
    have reads := plays.of_read read
    rw [gather_pause _ _ _ _ _ _ fits (reads.source_pause _) more,
      coherent.progress_pure past' past]
    exact ih (buffer :: past') (steady_progress coherent past buffer)
  | case7 line buffer silences past missing fits next read last =>
    have reads := plays.of_read read
    rw [gather_lastPause _ _ _ _ _ _ fits (reads.source_pause _) last]
    rfl
  | case8 line buffer silences past missing fits byte bytes next read longer ih =>
    have reads := plays.of_read read
    have few := Source.length_le_of_read read
    obtain ⟨past'', bulk⟩ := gather_octets coherent (view next) silences past
      (List.cons_ne_nil byte bytes) past' few fits steady
    rw [reads.eq_octets, bulk]
    exact ih past'' (steady_progress coherent past longer)

theorem start_seen {source : Source σ} {view : σ → List Item} {decoder : Decoder}
    (plays : source.Plays view) (coherent : decoder.Coherent) (line : σ) :
    (start source decoder line).seen view = (start Item.source decoder (view line)).seen id :=
  gather_seen plays coherent line [] 0 [] [] (.needMore 1) (steady_start decoder)

end Reception

end MeterBus
