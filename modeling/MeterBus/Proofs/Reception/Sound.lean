import MeterBus.Proofs.Frame.RoundTrip
import MeterBus.Proofs.Reception.Verdict
import MeterBus.Station

/-! # What a reception of the link layer can come to

For every queue, result and observer calls are explained by the bytes that the reception took from
the line: a frame is exactly those bytes, a malformed buffer is one that the incremental check
rejects, and an incomplete one is one that it wants more of. The invariant of the loop is
`Progress.Growing`: every proper beginning of the buffer still wanted more.
-/
namespace MeterBus
open MeterBus.Frame (OnWire)
set_option autoImplicit false

namespace Reception
open Progress (Growing growing_nil)

/-! ## The invariant through the loop -/

/-- What a buffer has to do with the end of the loop. -/
def Explained (buffer : Octets) : Ending → Prop
  | .complete => ∃ frame, OnWire frame buffer
  | .malformed => Progress.ofOctets buffer = .malformed
  | .tooLarge => False
  | .silent => ∃ n, Progress.ofOctets buffer = .needMore n
  | .failed _ => True

theorem gather_sound {σ : Type} {source : Source σ} {view : σ → List Item}
    (plays : source.Plays view) (line : σ) (buffer : Octets) (silences : Nat) (past : List Octets)
    (answer : Progress) (growing : Growing buffer) (honest : Progress.ofOctets buffer = answer) :
    ∃ eaten,
      view line = eaten ++
        view (gather source Decoder.link line buffer silences past answer).line ∧
      (gather source Decoder.link line buffer silences past answer).buffer =
        buffer ++ Item.octets eaten ∧
      Explained (gather source Decoder.link line buffer silences past answer).buffer
        (gather source Decoder.link line buffer silences past answer).ending := by
  fun_induction gather source Decoder.link line buffer silences past answer with
  | case1 line buffer silences past =>
    exact ⟨[], rfl, (List.append_nil buffer).symm, growing.onWire honest⟩
  | case2 line buffer silences past =>
    exact absurd (Progress.needMore_bounds honest).1 (Nat.not_succ_le_zero 0)
  | case3 line buffer silences past =>
    exact ⟨[], rfl, (List.append_nil buffer).symm, honest⟩
  | case4 line buffer silences past missing excess =>
    have bounds := (Progress.needMore_bounds honest).2
    rw [Link.capacity] at excess
    omega
  | case5 line buffer silences past missing fits fault next read =>
    have reads := plays.of_read read
    obtain ⟨eaten, split, bytes⟩ := reads.eaten
    refine ⟨eaten, split, ?_, trivial⟩
    rw [bytes]
    exact (List.append_nil buffer).symm
  | case6 line buffer silences past missing fits next read more ih =>
    have reads := plays.of_read read
    obtain ⟨first, split, bytes⟩ := reads.eaten
    obtain ⟨eaten, split', grown, explained⟩ := ih growing rfl
    refine ⟨first ++ eaten, ?_, ?_, explained⟩
    · rw [split, split', List.append_assoc]
      rfl
    · rw [Item.octets_append, bytes]
      exact grown
  | case7 line buffer silences past missing fits next read last =>
    have reads := plays.of_read read
    obtain ⟨eaten, split, bytes⟩ := reads.eaten
    refine ⟨eaten, split, ?_, _, honest⟩
    rw [bytes]
    exact (List.append_nil buffer).symm
  | case8 line buffer silences past missing fits byte bytes next read longer ih =>
    have reads := plays.of_read read
    have few := Source.length_le_of_read read
    obtain ⟨first, split, got⟩ := reads.eaten
    obtain ⟨eaten, split', grown, explained⟩ := ih (growing.append honest few) rfl
    refine ⟨first ++ eaten, ?_, ?_, explained⟩
    · rw [split, split', List.append_assoc]
      rfl
    · rw [Item.octets_append, got, ← List.append_assoc]
      exact grown

theorem start_sound {σ : Type} {source : Source σ} {view : σ → List Item}
    (plays : source.Plays view) (line : σ) :
    ∃ eaten, view line = eaten ++ view (start source Decoder.link line).line ∧
      (start source Decoder.link line).buffer = Item.octets eaten ∧
      Explained (start source Decoder.link line).buffer (start source Decoder.link line).ending :=
  gather_sound plays line [] 0 [] (.needMore 1) growing_nil rfl

/-! ## The result -/

/-- What a result says about the bytes taken from the line and the calls of the observers. -/
def Accounts (bytes : Octets) (told : List (Direction × Octets)) : Except Fault Frame → Prop
  | .ok frame =>
    frame.encode = .ok bytes ∧ frame.verify = .ok () ∧ told = [(.received, bytes)]
  | .error (.parse reason) =>
    bytes ≠ [] ∧ Progress.ofOctets bytes = .malformed ∧
      reason = "malformed frame data: " ++ Octets.hex bytes
  | .error (.incomplete received) =>
    received = bytes.length ∧ 1 ≤ bytes.length ∧ bytes.length ≤ 260 ∧
      ∃ n, Progress.ofOctets bytes = .needMore n
  | .error .receiveTimeout => bytes = []
  | .error (.read _) => True
  | .error _ => False

theorem accounts_verdict {buffer : Octets} {ending : Ending} (explained : Explained buffer ending)
    (past : List Octets) :
    Accounts buffer (calls buffer ending) (verdict Decoder.link past buffer ending) := by
  cases ending with
  | failed fault => trivial
  | tooLarge => exact explained.elim
  | complete =>
    obtain ⟨frame, wire⟩ := explained
    have some : ¬ buffer.isEmpty := fun empty => wire.ne_nil (List.isEmpty_iff.mp empty)
    have decoded : verdict Decoder.link past buffer .complete = .ok frame :=
      (if_neg some).trans wire.linkFrame
    rw [decoded]
    exact ⟨wire.encode, wire.verify, if_neg some⟩
  | malformed =>
    cases buffer with
    | nil => exact nomatch explained
    | cons byte bytes => exact ⟨List.cons_ne_nil byte bytes, explained, rfl⟩
  | silent =>
    cases buffer with
    | nil => rfl
    | cons byte bytes =>
      obtain ⟨n, missing⟩ := explained
      obtain ⟨positive, room⟩ := Progress.needMore_bounds missing
      exact ⟨rfl, Nat.succ_pos _, by omega, n, missing⟩

end Reception

namespace Station
open Reception (Accounts accounts_verdict start start_sound)

/-- **A reception is explained by the bytes it took from the line.** Whatever is queued, the result
and the calls of the observers, which recording observers have on record, are accounted for by what
is gone from the line afterwards, and a loop that ended with the decoder content never leaves bytes
that do not decode. -/
theorem receive_sound (station : Station) (connected : station.connected = true)
    (adapter : Adapter) :
    ∃ eaten told,
      adapter.items = eaten ++ (station.receive adapter).adapter.items ∧
        Calls (fun hooks => ({ station with hooks }.receive adapter).notes) told ∧
        (∀ label, Note.onRecord
          ({ station with hooks := .recording label }.receive adapter).notes = told) ∧
        Accounts (Item.octets eaten) told (station.receive adapter).result ∧
        ((start Adapter.source Decoder.link adapter).ending = .complete →
          ∃ frame, Decoder.linkFrame (Item.octets eaten) = .ok frame) := by
  obtain ⟨eaten, split, buffer, explained⟩ := start_sound Adapter.source_plays adapter
  have told := receive_calls connected adapter
  refine ⟨eaten, _, ?_, told, fun label => told.recorded label, ?_, ?_⟩
  · rw [receive_adapter connected]
    exact split
  · rw [receive_result connected, ← buffer]
    exact accounts_verdict explained _
  · intro complete
    rw [complete, buffer] at explained
    obtain ⟨frame, wire⟩ := explained
    exact ⟨frame, wire.linkFrame⟩

/-- A long frame with a wrong checksum, cut in two with silence between, and a byte behind it. -/
theorem receive_sound_mismatch :
    let station : Station := { device := "/dev/ttyUSB0", connected := true }
    let adapter : Adapter := { incoming := [.data [0x68, 3, 3, 0x68, 8], .silence,
      .data [1, 0x72, 0x7C, 0x16, 0xE5]] }
    station.connected = true ∧
      ∃ eaten told,
        adapter.items = eaten ++ (station.receive adapter).adapter.items ∧
          Calls (fun hooks => ({ station with hooks }.receive adapter).notes) told ∧
          (∀ label, Note.onRecord
            ({ station with hooks := .recording label }.receive adapter).notes = told) ∧
          Accounts (Item.octets eaten) told (station.receive adapter).result ∧
          ((start Adapter.source Decoder.link adapter).ending = .complete →
            ∃ frame, Decoder.linkFrame (Item.octets eaten) = .ok frame) :=
  ⟨rfl, receive_sound _ rfl _⟩

end Station

end MeterBus
