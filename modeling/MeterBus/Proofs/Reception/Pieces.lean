import MeterBus.Proofs.Frame.Completion
import MeterBus.Proofs.Reception.Verdict

/-! # How the bytes are cut does not matter

With a coherent decoder a reception is determined by the items on the line. In particular it is
the reception that asks for one byte at a time, and where the chunks of a queue end is never seen,
whether the bytes make a frame or not and however pauses and faults fall among them.
-/
namespace MeterBus
set_option autoImplicit false

theorem Decoder.link_coherent : Decoder.link.Coherent where
  progress_pure _ _ _ := rfl
  complete_pure _ _ _ := rfl
  needMore_append _ _ _ _ missing less := Progress.needMore_append missing less

namespace Reception

/-- Two receptions that come to the same result, tell every observer the same and leave the same
items on the line. -/
def Alike (first second : Hooks → Outcome) : Prop :=
  (∀ hooks, (first hooks).result = (second hooks).result) ∧
    (∀ hooks, (first hooks).adapter.items = (second hooks).adapter.items) ∧
    ∃ told, Calls (fun hooks => (first hooks).notes) told ∧
      Calls (fun hooks => (second hooks).notes) told

/-- Two sources that deliver the items of an adapter are received from alike. -/
theorem receiveFrom_alike {source source' : Source Adapter} {decoder : Decoder}
    (coherent : decoder.Coherent) (plays : source.Plays Adapter.items)
    (plays' : source'.Plays Adapter.items) {adapter adapter' : Adapter}
    (items : adapter.items = adapter'.items) :
    Alike (fun hooks => receiveFrom source hooks decoder adapter)
      (fun hooks => receiveFrom source' hooks decoder adapter') := by
  have seen : (start source decoder adapter).seen Adapter.items =
      (start source' decoder adapter').seen Adapter.items := by
    rw [start_seen plays coherent, start_seen plays' coherent, items]
  obtain ⟨buffer, rest⟩ := Prod.mk.inj seen
  obtain ⟨ending, left⟩ := Prod.mk.inj rest
  refine ⟨fun hooks => ?_, fun hooks => left, _, receiveFrom_calls source decoder adapter, ?_⟩
  · rw [receiveFrom_result, receiveFrom_result, buffer, ending]
    have complete := coherent.complete_pure (start source decoder adapter).past
      (start source' decoder adapter').past (start source' decoder adapter').buffer
    cases (start source' decoder adapter').ending <;> simp only [verdict, complete]
  · rw [buffer, ending]
    exact receiveFrom_calls source' decoder adapter'

/-- **Reading in bulk is reading byte by byte.** The decoder of the link layer is coherent, and with
any coherent decoder a reception is like the one that asks for a single byte each time, and like
the one from any queue that differs in its chunk boundaries alone. -/
theorem receive_bytewise :
    Decoder.link.Coherent ∧
      ∀ decoder : Decoder, decoder.Coherent → ∀ adapter : Adapter,
        Alike (fun hooks => receive hooks decoder adapter)
            (fun hooks => receiveFrom Adapter.bytewise hooks decoder adapter) ∧
          ∀ recut : Adapter, recut.items = adapter.items →
            Alike (fun hooks => receive hooks decoder adapter)
              (fun hooks => receive hooks decoder recut) := by
  rw [receive_eq_receiveFrom]
  refine ⟨Decoder.link_coherent, fun decoder coherent adapter => ⟨?_, fun recut items => ?_⟩⟩
  · exact receiveFrom_alike coherent Adapter.source_plays Adapter.bytewise_plays rfl
  · exact receiveFrom_alike coherent Adapter.source_plays Adapter.source_plays items.symm

/-- A short frame with a pause inside and a byte behind it, cut in two ways. -/
theorem receive_bytewise_recut :
    let adapter : Adapter := { incoming := [.data [0x10], .silence, .data [0x5B, 1],
      .data [0x5C, 0x16], .data [0xE5]] }
    let recut : Adapter :=
      { incoming := [.data [0x10], .data [], .data [0x5B, 1, 0x5C, 0x16, 0xE5]] }
    Decoder.link.Coherent ∧ recut.items = adapter.items ∧
      Alike (fun hooks => receive hooks Decoder.link adapter)
        (fun hooks => receiveFrom Adapter.bytewise hooks Decoder.link adapter) ∧
      Alike (fun hooks => receive hooks Decoder.link adapter)
        (fun hooks => receive hooks Decoder.link recut) := by
  obtain ⟨bytewise, recuts⟩ := receive_bytewise.2 Decoder.link Decoder.link_coherent
    { incoming := [.data [0x10], .silence, .data [0x5B, 1], .data [0x5C, 0x16], .data [0xE5]] }
  exact ⟨Decoder.link_coherent, rfl, bytewise, recuts _ rfl⟩

end Reception

end MeterBus
