import MeterBus.Proofs.Observers
import MeterBus.Proofs.Reception.Loop
import MeterBus.Station

/-! # From the loop to the outcome

The verdict of a reception depends on the loop through buffer and ending alone, and so do the calls
of the observers. Everything here is about any source, so that receptions from different sources
can be compared.

* `receiveFrom`: a reception from any source that leaves an adapter behind.
* `verdict`, `calls`: result and calls as functions of buffer and ending.
-/
namespace MeterBus
set_option autoImplicit false

namespace Reception

def receiveFrom (source : Source Adapter) (hooks : Hooks) (decoder : Decoder) (adapter : Adapter) :
    Outcome :=
  let gathered := start source decoder adapter
  let (result, notes) :=
    if gathered.buffer.isEmpty then nothing gathered.ending
    else something hooks decoder gathered
  { result, adapter := gathered.line, notes := gathered.notes ++ notes }

theorem receive_eq_receiveFrom : receive = receiveFrom Adapter.source := rfl

/-! ## The result -/

/-- What a buffer and the end of the loop come to. -/
def verdict (decoder : Decoder) (past : List Octets) (buffer : Octets) (ending : Ending) :
    Except Fault Frame :=
  match ending with
  | .failed fault => .error (.read fault)
  | .silent => .error (if buffer.isEmpty then .receiveTimeout else .incomplete buffer.length)
  | .malformed | .tooLarge =>
    .error (if buffer.isEmpty then .noData
      else .parse ("malformed frame data: " ++ Octets.hex buffer))
  | .complete => if buffer.isEmpty then .error .noData else decoder.complete past buffer

theorem receiveFrom_result (source : Source Adapter) (hooks : Hooks) (decoder : Decoder)
    (adapter : Adapter) :
    (receiveFrom source hooks decoder adapter).result =
      verdict decoder (start source decoder adapter).past (start source decoder adapter).buffer
        (start source decoder adapter).ending := by
  simp only [receiveFrom]
  generalize start source decoder adapter = gathered
  by_cases empty : gathered.buffer.isEmpty
  · rw [if_pos empty]
    cases ending : gathered.ending <;> simp only [nothing, verdict, if_pos empty]
  · rw [if_neg empty]
    cases ending : gathered.ending <;> simp only [something, verdict, ending, if_neg empty]

/-! ## The calls of the observers -/

/-- The calls of the receive observer: one with everything received, unless nothing was or the line
failed. -/
def calls (buffer : Octets) (ending : Ending) : List (Direction × Octets) :=
  match ending with
  | .failed _ => []
  | _ => if buffer.isEmpty then [] else [(.received, buffer)]

theorem gather_notes {σ : Type} (source : Source σ) (decoder : Decoder) (line : σ)
    (buffer : Octets) (silences : Nat) (past : List Octets) (answer : Progress) :
    (gather source decoder line buffer silences past answer).notes.filterMap Note.record? = [] := by
  fun_induction gather source decoder line buffer silences past answer with
  | case1 | case2 | case3 | case4 | case5 | case7 => rfl
  | case6 line buffer silences past missing fits next read more ih => exact ih
  | case8 line buffer silences past missing fits byte bytes next read longer ih => exact ih

theorem nothing_calls (ending : Ending) : Calls (fun _ => (nothing ending).2) [] := by
  apply Calls.own
  cases ending <;> rfl

theorem something_calls (decoder : Decoder) {gathered : Gathered Adapter}
    (some : ¬ gathered.buffer.isEmpty) :
    Calls (fun hooks => (something hooks decoder gathered).2)
      (calls gathered.buffer gathered.ending) := by
  have heard : Calls (fun hooks => hooks.fireRecv gathered.line gathered.buffer)
      [(.received, gathered.buffer)] := by
    simp only [Hooks.fireRecv_eq]
    exact Calls.call .received gathered.line gathered.buffer
  cases ending : gathered.ending with
  | failed fault =>
    simp only [something, calls, ending]
    exact Calls.own [] rfl
  | silent =>
    simp only [something, calls, ending, if_neg some]
    exact heard.append (Calls.own _ rfl)
  | complete | malformed | tooLarge =>
    simp only [something, calls, ending, if_neg some]
    exact heard

theorem calls_empty {buffer : Octets} (empty : buffer.isEmpty) (ending : Ending) :
    calls buffer ending = [] := by
  cases ending <;> simp only [calls, if_pos empty]

theorem receiveFrom_calls (source : Source Adapter) (decoder : Decoder) (adapter : Adapter) :
    Calls (fun hooks => (receiveFrom source hooks decoder adapter).notes)
      (calls (start source decoder adapter).buffer (start source decoder adapter).ending) := by
  have loop := Calls.own _ (gather_notes source decoder adapter [] 0 [] (.needMore 1))
  simp only [receiveFrom]
  by_cases empty : (start source decoder adapter).buffer.isEmpty
  · simp only [if_pos empty, calls_empty empty]
    exact loop.append (nothing_calls _)
  · simp only [if_neg empty]
    exact loop.append (something_calls decoder empty)

end Reception

/-! ## A connected station -/

namespace Station
open Reception (calls receiveFrom_calls receiveFrom_result start verdict)

section Connected

variable {station : Station} (connected : station.connected = true) (adapter : Adapter)
include connected

theorem receive_connected :
    station.receive adapter =
      { result := (Reception.receive station.hooks Decoder.link adapter).result, station,
        adapter := (Reception.receive station.hooks Decoder.link adapter).adapter,
        notes := (Reception.receive station.hooks Decoder.link adapter).notes } :=
  if_pos connected

theorem receive_station : (station.receive adapter).station = station := by
  rw [receive_connected connected]

theorem receive_adapter :
    (station.receive adapter).adapter = (start Adapter.source Decoder.link adapter).line := by
  rw [receive_connected connected]
  rfl

theorem receive_result :
    (station.receive adapter).result =
      verdict Decoder.link (start Adapter.source Decoder.link adapter).past
        (start Adapter.source Decoder.link adapter).buffer
        (start Adapter.source Decoder.link adapter).ending := by
  rw [receive_connected connected]
  exact receiveFrom_result Adapter.source station.hooks Decoder.link adapter

theorem receive_calls :
    Calls (fun hooks => ({ station with hooks }.receive adapter).notes)
      (calls (start Adapter.source Decoder.link adapter).buffer
        (start Adapter.source Decoder.link adapter).ending) := by
  have notes : (fun hooks => ({ station with hooks }.receive adapter).notes) =
      fun hooks => (Reception.receive hooks Decoder.link adapter).notes := by
    funext hooks
    rw [@receive_connected { station with hooks } connected]
  rw [notes]
  exact receiveFrom_calls Adapter.source Decoder.link adapter

end Connected

end Station

end MeterBus
