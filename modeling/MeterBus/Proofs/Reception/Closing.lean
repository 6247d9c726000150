import Mathlib.Logic.ExistsUnique
import MeterBus.Proofs.Reception.Bounds
import MeterBus.Proofs.Reception.Verdict

/-! # The three ways a reception ends

Under any decoder, one that contradicts itself included, a reception ends with a fault of the line,
with the third silent read or with an answer of the decoder, and the last read tells which. Result,
calls of the observers and buffers shown to the decoder are then functions of the reads alone, and
so is what is gone from the line.

* `consumed`: what the reads on a record took from the line.
* `Uncompleted`: the decoder is not asked to make a frame.
* `Closes`: what each of the three ends comes to.
-/
namespace MeterBus
set_option autoImplicit false

/-! ## What reads take from the line -/

def Taking.items (taking : Taking) : List Item :=
  match taking.answer with
  | .ok [] => [.pause]
  | .ok bytes => bytes.map .octet
  | .error fault => [.fault fault.kind]

namespace Reception

/-- What the reads on record took from the line, if a pause stands for every silent one. -/
def consumed : List Taking → List Item
  | [] => []
  | taking :: earlier => consumed earlier ++ taking.items

/-- Reads take items from the front of the line. Only an empty line is silent of itself. -/
theorem consumed_ran {σ : Type} {source : Source σ} {view : σ → List Item}
    (plays : source.Plays view) {first line : σ} {takings : List Taking}
    (ran : source.Ran first takings line) (positive : ∀ taking ∈ takings, 1 ≤ taking.size) :
    ∃ eaten dry, consumed takings = eaten ++ List.replicate dry .pause ∧
      view first = eaten ++ view line ∧ (dry = 0 ∨ view line = []) := by
  induction ran with
  | start => exact ⟨[], 0, rfl, rfl, Or.inl rfl⟩
  | @read earlier line size before ih =>
    obtain ⟨eaten, dry, took, split, only⟩ := ih fun taking member =>
      positive taking (List.mem_cons_of_mem _ member)
    have reads := plays.reads line size (positive _ List.mem_cons_self)
    generalize source.read line size = answered at reads ⊢
    obtain ⟨answer, next⟩ := answered
    simp only at reads ⊢
    -- Something in front of the line shows that no read before was dry.
    have wet : view line ≠ [] → consumed earlier = eaten := by
      intro some
      rcases only with none | empty
      · rw [took, none, List.replicate_zero, List.append_nil]
      · exact absurd empty some
    generalize ahead : view line = here at reads wet split only
    generalize behind : view next = there at reads ⊢
    cases reads with
    | octets bytes _ some =>
      have nonempty : bytes.map Item.octet ++ there ≠ [] := by simp [some]
      refine ⟨eaten ++ bytes.map .octet, 0, ?_, ?_, Or.inl rfl⟩
      · rw [consumed, wet nonempty, List.replicate_zero, List.append_nil]
        cases bytes with
        | nil => exact absurd rfl some
        | cons byte bytes => rfl
      · rw [split, List.append_assoc]
    | pause =>
      refine ⟨eaten ++ [.pause], 0, ?_, ?_, Or.inl rfl⟩
      · rw [consumed, wet (List.cons_ne_nil _ _), List.replicate_zero, List.append_nil]
        rfl
      · rw [split, List.append_assoc, List.singleton_append]
    | dry =>
      refine ⟨eaten, dry + 1, ?_, split, Or.inr rfl⟩
      rw [consumed, took, List.replicate_succ', List.append_assoc]
      rfl
    | fault kind =>
      refine ⟨eaten ++ [.fault kind], 0, ?_, ?_, Or.inl rfl⟩
      · rw [consumed, wet (List.cons_ne_nil _ _), List.replicate_zero, List.append_nil]
        rfl
      · rw [split, List.append_assoc, List.singleton_append]

theorem pastReads_ran {first adapter : Adapter} {takings : List Taking}
    (ran : Adapter.source.Ran first takings adapter) :
    adapter.pastReads = takings.map Taking.size ++ first.pastReads := by
  induction ran with
  | start => rfl
  | @read earlier line size before ih =>
    show size :: line.pastReads = _
    rw [ih, List.map_cons, List.cons_append]

/-! ## What the decoder is asked -/

section Asked

variable {σ : Type} (source : Source σ) (decoder : Decoder) (line : σ) (buffer : Octets)
  (silences : Nat) (past : List Octets) (answer : Progress)

/-- The notes of the loop show every buffer that the decoder was shown. -/
theorem gather_shown :
    past.reverse ++
        (gather source decoder line buffer silences past answer).notes.filterMap Note.shown? =
      (gather source decoder line buffer silences past answer).past.reverse := by
  fun_induction gather source decoder line buffer silences past answer with
  | case1 | case2 | case3 | case4 | case5 | case7 => exact List.append_nil _
  | case6 line buffer silences past missing fits next read more ih =>
    rw [List.reverse_cons, List.append_assoc] at ih
    exact ih
  | case8 line buffer silences past missing fits byte bytes next read longer ih =>
    rw [List.reverse_cons, List.append_assoc] at ih
    exact ih

theorem gather_recompleted (complete : List Octets → Octets → Except Fault Frame) :
    gather source { decoder with complete } line buffer silences past answer =
      gather source decoder line buffer silences past answer := by
  fun_induction gather source decoder line buffer silences past answer with
  | case1 | case2 | case3 => rw [gather]
  | case4 line buffer silences past missing excess => rw [gather, if_pos excess]
  | case5 line buffer silences past missing fits fault next read => rw [gather, if_neg fits, read]
  | case6 line buffer silences past missing fits next read more ih =>
    rw [gather, if_neg fits, read]
    simp only [if_pos more]
    exact congrArg (Gathered.noting _) ih
  | case7 line buffer silences past missing fits next read last =>
    rw [gather, if_neg fits, read]
    simp only [if_neg last]
  | case8 line buffer silences past missing fits byte bytes next read longer ih =>
    rw [gather, if_neg fits, read]
    exact congrArg (Gathered.noting [.shown longer]) ih

end Asked

variable {decoder : Decoder} {adapter : Adapter}

/-- What the decoder makes of a complete buffer plays no part. -/
def Uncompleted (decoder : Decoder) (adapter : Adapter) : Prop :=
  ∀ hooks complete, receive hooks { decoder with complete } adapter = receive hooks decoder adapter

theorem uncompleted (unfit : (start Adapter.source decoder adapter).ending ≠ .complete ∨
    (start Adapter.source decoder adapter).buffer = []) : Uncompleted decoder adapter := by
  intro hooks complete
  have same : start Adapter.source { decoder with complete } adapter =
      start Adapter.source decoder adapter :=
    gather_recompleted Adapter.source decoder adapter [] 0 [] (.needMore 1) complete
  simp only [receive, same]
  by_cases empty : (start Adapter.source decoder adapter).buffer = []
  · simp only [empty, List.isEmpty_nil, if_true]
  · have unmade := unfit.resolve_right empty
    have verdicts :
        something hooks { decoder with complete } (start Adapter.source decoder adapter) =
        something hooks decoder (start Adapter.source decoder adapter) := by
      cases ending : (start Adapter.source decoder adapter).ending with
      | complete => exact absurd ending unmade
      | malformed | tooLarge | silent | failed => simp only [something, ending]
    rw [verdicts]

/-- Without observers, the buffers that a reception notes are those the decoder was shown. -/
theorem receive_shown (decoder : Decoder) (adapter : Adapter) :
    (receive Hooks.silent decoder adapter).notes.filterMap Note.shown? =
      (start Adapter.source decoder adapter).past.reverse := by
  have loop := gather_shown Adapter.source decoder adapter [] 0 [] (.needMore 1)
  rw [List.reverse_nil, List.nil_append] at loop
  have quiet : (nothing (start Adapter.source decoder adapter).ending).2.filterMap Note.shown? = [] ∧
      (something Hooks.silent decoder (start Adapter.source decoder adapter)).2.filterMap
        Note.shown? = [] := by
    cases ending : (start Adapter.source decoder adapter).ending <;>
      simp only [nothing, something, ending] <;> exact ⟨rfl, rfl⟩
  simp only [receive, List.filterMap_append]
  split
  · rw [quiet.1, List.append_nil]
    exact loop
  · rw [quiet.2, List.append_nil]
    exact loop

/-! ## The three ends -/

/-- How a reception ends: by a fault of the line, by the third silent read, or by an answer of the
decoder. -/
inductive Close where
  | failed
  | silent
  | judged
  deriving DecidableEq, Repr

def Content (answer : Progress) : Prop := answer = .complete ∨ answer = .needMore 0

/-- The decoder has given up, or wants more than there is room for behind `length` bytes. -/
def Hopeless (length : Nat) (answer : Progress) : Prop :=
  answer = .malformed ∨ ∃ n, answer = .needMore n ∧ Link.capacity - length < n

/-- What an end says about the reads, the buffers shown, the calls of the observers and the
result. Reads and buffers have the latest in front. -/
def Closes (decoder : Decoder) (adapter : Adapter) (takings : List Taking) (shown : List Octets)
    (told : List (Direction × Octets)) (result : Except Fault Frame) : Close → Prop
  | .failed => ∃ size fault earlier, takings = ⟨size, .error fault⟩ :: earlier ∧
      shown = stages earlier ∧ Uncompleted decoder adapter ∧
      result = .error (.read fault) ∧ told = []
  | .silent => ∃ size earlier, takings = ⟨size, .ok []⟩ :: earlier ∧ silences takings = 3 ∧
      shown = stages earlier ∧ Uncompleted decoder adapter ∧
      (held takings = [] → result = .error .receiveTimeout ∧ told = []) ∧
      (held takings ≠ [] → result = .error (.incomplete (held takings).length) ∧
        told = [(.received, held takings)])
  | .judged => ∃ size bytes earlier, takings = ⟨size, .ok bytes⟩ :: earlier ∧ silences takings < 3 ∧
      shown = stages takings ∧
      let answer := decoder.progress (stages earlier) (held takings)
      (Content answer ∨ Hopeless (held takings).length answer) ∧
        (held takings = [] → result = .error .noData ∧ told = [] ∧ Uncompleted decoder adapter) ∧
        (held takings ≠ [] → told = [(.received, held takings)] ∧
          (Content answer → result = decoder.complete shown (held takings)) ∧
          (Hopeless (held takings).length answer → Uncompleted decoder adapter ∧
            result = .error (.parse ("malformed frame data: " ++ Octets.hex (held takings)))))

/-- The end that a record shows. -/
def Close.of : List Taking → Close
  | ⟨_, .error _⟩ :: _ => failed
  | takings => if silences takings < 3 then judged else silent

section Ends

variable {takings : List Taking} {shown past : List Octets} {told : List (Direction × Octets)}
  {result : Except Fault Frame} {close : Close} {ending : Ending}

theorem Closes.eq_of (h : Closes decoder adapter takings shown told result close) :
    close = Close.of takings := by
  cases close with
  | failed =>
    obtain ⟨size, fault, earlier, rfl, -⟩ := h
    rfl
  | silent =>
    obtain ⟨size, earlier, rfl, third, -⟩ := h
    have reached : ¬ silences (⟨size, .ok []⟩ :: earlier) < 3 := by omega
    exact (if_neg reached).symm
  | judged =>
    obtain ⟨size, bytes, earlier, rfl, few, -⟩ := h
    exact (if_pos few).symm

theorem not_hopeless {answer : Progress} (content : Content answer) (length : Nat) :
    ¬ Hopeless length answer := by
  rintro (given | ⟨n, wanted, excess⟩)
  · rw [given] at content
    exact content.elim nofun nofun
  · rw [wanted] at content
    rcases content with complete | zero
    · exact nomatch complete
    · obtain rfl := Progress.needMore.inj zero
      omega

/-- The decoder is not asked for anything before the first read. -/
theorem Underway.judged (h : Underway decoder takings)
    (final : Content (asked decoder takings) ∨
      Hopeless (held takings).length (asked decoder takings)) :
    ∃ size bytes earlier, takings = ⟨size, .ok bytes⟩ :: earlier := by
  cases h with
  | @read earlier n bytes before due few patient => exact ⟨n, bytes, earlier, rfl⟩
  | start =>
    exfalso
    rcases final with (complete | zero) | given | ⟨n, wanted, excess⟩
    · exact nomatch complete
    · exact nomatch zero
    · exact nomatch given
    · obtain rfl := Progress.needMore.inj wanted
      exact absurd excess (by decide)

theorem closes_content (before : Underway decoder takings)
    (content : Content (asked decoder takings))
    (unmade : held takings = [] → Uncompleted decoder adapter) :
    Closes decoder adapter takings (stages takings) (calls (held takings) .complete)
      (verdict decoder (stages takings) (held takings) .complete) .judged := by
  have few := before.silences_lt
  obtain ⟨size, bytes, earlier, rfl⟩ := before.judged (Or.inl content)
  refine ⟨size, bytes, earlier, rfl, few, rfl, Or.inl content, ?_, ?_⟩
  · intro empty
    have nothing := unmade empty
    rw [empty]
    exact ⟨rfl, rfl, nothing⟩
  · intro some
    have bytes : ¬ (held (⟨size, .ok bytes⟩ :: earlier)).isEmpty := by simpa using some
    exact ⟨if_neg bytes, fun _ => if_neg bytes, fun hopeless =>
      absurd hopeless (not_hopeless content _)⟩

theorem closes_hopeless (before : Underway decoder takings)
    (hopeless : Hopeless (held takings).length (asked decoder takings))
    (unmade : Uncompleted decoder adapter) :
    Closes decoder adapter takings (stages takings) (calls (held takings) .malformed)
      (verdict decoder (stages takings) (held takings) .malformed) .judged := by
  have few := before.silences_lt
  obtain ⟨size, bytes, earlier, rfl⟩ := before.judged (Or.inr hopeless)
  refine ⟨size, bytes, earlier, rfl, few, rfl, Or.inr hopeless, ?_, ?_⟩
  · intro empty
    rw [empty]
    exact ⟨rfl, rfl, unmade⟩
  · intro some
    have bytes : ¬ (held (⟨size, .ok bytes⟩ :: earlier)).isEmpty := by simpa using some
    refine ⟨if_neg bytes, fun content => absurd hopeless (not_hopeless content _), fun _ => ?_⟩
    exact ⟨unmade, congrArg Except.error (if_neg bytes)⟩

theorem Closed.closes (h : Closed decoder takings past ending)
    (unmade : ending ≠ .complete ∨ held takings = [] → Uncompleted decoder adapter) :
    ∃ close, Closes decoder adapter takings past (calls (held takings) ending)
      (verdict decoder past (held takings) ending) close := by
  cases h with
  | complete before content =>
    exact ⟨.judged, closes_content before content fun empty => unmade (Or.inr empty)⟩
  | malformed before given =>
    exact ⟨.judged, closes_hopeless before (Or.inl given) (unmade (Or.inl nofun))⟩
  | tooLarge before wanted excess =>
    exact ⟨.judged, closes_hopeless before (Or.inr ⟨_, wanted, excess⟩) (unmade (Or.inl nofun))⟩
  | @silent earlier n before due last =>
    have third : silences (⟨n, .ok []⟩ :: earlier) = 3 := by
      rw [silences_silent]
      exact last
    refine ⟨.silent, n, earlier, rfl, third, rfl, unmade (Or.inl nofun), ?_, ?_⟩
    · intro empty
      rw [empty]
      exact ⟨rfl, rfl⟩
    · intro some
      have bytes : ¬ (held (⟨n, .ok []⟩ :: earlier)).isEmpty := by simpa using some
      exact ⟨congrArg Except.error (if_neg bytes), if_neg bytes⟩
  | @failed earlier n fault before due =>
    exact ⟨.failed, n, fault, earlier, rfl, rfl, unmade (Or.inl nofun), rfl, rfl⟩

end Ends

/-- **A reception is accounted for by its reads, whatever the decoder.** What is gone from the line
is what the reads took, the decoder is shown what has been received after each of them, and exactly
one of the three ends holds, with the result, the calls of the observers, which recording observers
have on record, and the last buffer shown that belong to it. -/
theorem receive_accounted (decoder : Decoder) (adapter : Adapter) :
    let takings := tape Adapter.source decoder adapter
    let shown := ((receive Hooks.silent decoder adapter).notes.filterMap Note.shown?).reverse
    ∃ left told,
      Adapter.source.Ran adapter takings left ∧
        left.pastReads = takings.map Taking.size ++ adapter.pastReads ∧
        (∃ eaten dry, consumed takings = eaten ++ List.replicate dry .pause ∧
          adapter.items = eaten ++ left.items ∧ (dry = 0 ∨ left.items = [])) ∧
        (∀ hooks, (receive hooks decoder adapter).adapter = left) ∧
        Calls (fun hooks => (receive hooks decoder adapter).notes) told ∧
        (∀ label, Note.onRecord (receive (.recording label) decoder adapter).notes = told) ∧
        ∃! close, ∀ hooks,
          Closes decoder adapter takings shown told
            (receive hooks decoder adapter).result close := by
  intro takings shown
  obtain ⟨closed, buffer⟩ := start_recorded Adapter.source decoder adapter
  have ran := start_ran Adapter.source decoder adapter
  have positive : ∀ taking ∈ takings, 1 ≤ taking.size := by
    intro taking member
    obtain ⟨later, earlier, split⟩ := List.append_of_mem member
    change Closed decoder takings _ _ at closed
    rw [split] at closed
    exact closed.made.due.positive
  have last : shown = (start Adapter.source decoder adapter).past := by
    show List.reverse _ = _
    rw [receive_shown, List.reverse_reverse]
  have results (hooks : Hooks) := receiveFrom_result Adapter.source hooks decoder adapter
  have told := receiveFrom_calls Adapter.source decoder adapter
  rw [buffer] at told
  simp only [buffer] at results
  obtain ⟨close, closes⟩ := closed.closes fun unmade => uncompleted (by rwa [buffer])
  refine ⟨_, _, ran, pastReads_ran ran, consumed_ran Adapter.source_plays ran positive,
    fun _ => rfl, told, fun label => told.recorded label, close, ?_, ?_⟩
  · intro hooks
    rw [last, receive_eq_receiveFrom, results]
    exact closes
  · intro other holds
    exact (holds Hooks.silent).eq_of.trans closes.eq_of.symm

end Reception

end MeterBus
