import MeterBus.Proofs.Reception.Loop

/-! # The reads of a reception

A line that keeps a record of its reads shows what a reception did: how much it asked for each time
and what it got. Buffer, silences, the buffers shown to the decoder and its last answer are all
functions of that record, so the loop is described by the records it can run through (`Underway`) and
those it can end with (`Closed`), for any line and any decoder. Records have the latest read in
front.

* `Source.noted`, `tape`: the recording line and the record of a reception.
* `Source.Ran`: the record leads from one state of the line to another.
* `held`, `stages`, `silences`, `asked`: the state of the loop, read off the record.
* `start_recorded`, `start_ran`: what the record of a whole reception looks like.
-/
namespace MeterBus
set_option autoImplicit false

/-- One read: how much was asked for and the answer. -/
structure Taking where
  size : Nat
  answer : Except IoFault Octets

namespace Taking

def octets (taking : Taking) : Octets := taking.answer.toOption.getD []

def silent (taking : Taking) : Bool :=
  match taking.answer with
  | .ok [] => true
  | _ => false

end Taking

namespace Source

variable {σ : Type}

/-- The same line with the record of its reads beside it. -/
def noted (source : Source σ) : Source (σ × List Taking) where
  read line size :=
    ((source.read line.1 size).1,
      (source.read line.1 size).2, ⟨size, (source.read line.1 size).1⟩ :: line.2)
  read_le line size bytes h := source.read_le line.1 size bytes h

theorem noted_read {source : Source σ} {line next : σ × List Taking} {size : Nat}
    {answer : Except IoFault Octets} (read : source.noted.read line size = (answer, next)) :
    next.2 = ⟨size, answer⟩ :: line.2 := by
  obtain ⟨rfl, rfl⟩ := Prod.mk.inj read
  rfl

/-- The reads on record, made one after another on `first`, leave the line as it is now. -/
inductive Ran (source : Source σ) (first : σ) : List Taking → σ → Prop where
  | start : Ran source first [] first
  | read {takings : List Taking} {line : σ} (size : Nat) (before : Ran source first takings line) :
    Ran source first (⟨size, (source.read line size).1⟩ :: takings) (source.read line size).2

end Source

namespace Reception

/-! ## The state of the loop -/

def held : List Taking → Octets
  | [] => []
  | taking :: earlier => held earlier ++ taking.octets

/-- What had been received after each of the reads. -/
def stages : List Taking → List Octets
  | [] => []
  | taking :: earlier => held (taking :: earlier) :: stages earlier

def silences (takings : List Taking) : Nat := takings.countP Taking.silent

/-- What is wanted after the reads: one byte at first, then what the decoder says. -/
def asked (decoder : Decoder) : List Taking → Progress
  | [] => .needMore 1
  | taking :: earlier => decoder.progress (stages earlier) (held (taking :: earlier))

theorem held_silent (size : Nat) (earlier : List Taking) :
    held (⟨size, .ok []⟩ :: earlier) = held earlier := List.append_nil (held earlier)

theorem held_fault (size : Nat) (fault : IoFault) (earlier : List Taking) :
    held (⟨size, .error fault⟩ :: earlier) = held earlier := List.append_nil (held earlier)

theorem silences_silent (size : Nat) (earlier : List Taking) :
    silences (⟨size, .ok []⟩ :: earlier) = silences earlier + 1 := List.countP_cons_of_pos rfl

theorem silences_bytes (size : Nat) (byte : UInt8) (bytes : Octets) (earlier : List Taking) :
    silences (⟨size, .ok (byte :: bytes)⟩ :: earlier) = silences earlier :=
  List.countP_cons_of_neg Bool.false_ne_true

theorem silences_fault (size : Nat) (fault : IoFault) (earlier : List Taking) :
    silences (⟨size, .error fault⟩ :: earlier) = silences earlier :=
  List.countP_cons_of_neg Bool.false_ne_true

/-! ## Records -/

/-- The next read is one of `n` bytes, and there is room for them. -/
structure Due (decoder : Decoder) (takings : List Taking) (n : Nat) : Prop where
  wanted : asked decoder takings = .needMore n
  positive : 1 ≤ n
  room : (held takings).length + n ≤ Link.capacity

/-- The records that a reception can have made while it goes on. -/
inductive Underway (decoder : Decoder) : List Taking → Prop where
  | start : Underway decoder []
  | read {earlier : List Taking} {n : Nat} {bytes : Octets} (before : Underway decoder earlier)
    (due : Due decoder earlier n) (few : bytes.length ≤ n)
    (patient : silences (⟨n, .ok bytes⟩ :: earlier) < Link.silenceLimit) :
    Underway decoder (⟨n, .ok bytes⟩ :: earlier)

/-- The records that a reception can end with, with the buffers shown to the decoder. -/
inductive Closed (decoder : Decoder) : List Taking → List Octets → Ending → Prop where
  | complete {takings : List Taking} (before : Underway decoder takings)
    (content : asked decoder takings = .complete ∨ asked decoder takings = .needMore 0) :
    Closed decoder takings (stages takings) .complete
  | malformed {takings : List Taking} (before : Underway decoder takings)
    (given : asked decoder takings = .malformed) :
    Closed decoder takings (stages takings) .malformed
  | tooLarge {takings : List Taking} {n : Nat} (before : Underway decoder takings)
    (wanted : asked decoder takings = .needMore n)
    (excess : Link.capacity - (held takings).length < n) :
    Closed decoder takings (stages takings) .tooLarge
  | silent {earlier : List Taking} {n : Nat} (before : Underway decoder earlier)
    (due : Due decoder earlier n) (last : silences earlier + 1 = Link.silenceLimit) :
    Closed decoder (⟨n, .ok []⟩ :: earlier) (stages earlier) .silent
  | failed {earlier : List Taking} {n : Nat} {fault : IoFault} (before : Underway decoder earlier)
    (due : Due decoder earlier n) :
    Closed decoder (⟨n, .error fault⟩ :: earlier) (stages earlier) (.failed fault)

theorem Underway.silences_lt {decoder : Decoder} {takings : List Taking}
    (h : Underway decoder takings) : silences takings < Link.silenceLimit := by
  cases h with
  | start => decide
  | read before due few patient => exact patient

theorem Underway.length_held {decoder : Decoder} {takings : List Taking}
    (h : Underway decoder takings) : (held takings).length ≤ Link.capacity := by
  cases h with
  | start => exact Nat.zero_le _
  | @read earlier n bytes before due few patient =>
    have room := due.room
    have grown : (held (⟨n, .ok bytes⟩ :: earlier)).length = (held earlier).length + bytes.length :=
      List.length_append
    omega

/-! ## The loop keeps its record -/

section Loop

variable {σ : Type} {source : Source σ} {decoder : Decoder}

def Gathered.over {τ : Type} (f : τ → σ) (gathered : Gathered τ) : Gathered σ :=
  { gathered with line := f gathered.line }

theorem Gathered.over_noting {τ : Type} (f : τ → σ) (notes : List Note) (gathered : Gathered τ) :
    (gathered.noting notes).over f = (gathered.over f).noting notes := rfl

/-- A line that answers like another is received from like the other. -/
theorem gather_over {τ : Type} {source' : Source τ} (f : τ → σ)
    (follows : ∀ line size, source.read (f line) size =
      ((source'.read line size).1, f (source'.read line size).2))
    (line : τ) (buffer : Octets) (silences : Nat) (past : List Octets) (answer : Progress) :
    (gather source' decoder line buffer silences past answer).over f =
      gather source decoder (f line) buffer silences past answer := by
  fun_induction gather source' decoder line buffer silences past answer with
  | case1 | case2 | case3 => rw [gather]; rfl
  | case4 line buffer silences past missing excess => rw [gather, if_pos excess]; rfl
  | case5 line buffer silences past missing fits fault next read =>
    have here := follows line (missing + 1)
    rw [read] at here
    rw [gather, if_neg fits, here]
    rfl
  | case6 line buffer silences past missing fits next read more ih =>
    have here := follows line (missing + 1)
    rw [read] at here
    rw [gather, if_neg fits, here, Gathered.over_noting, ih]
    simp only [if_pos more]
  | case7 line buffer silences past missing fits next read last =>
    have here := follows line (missing + 1)
    rw [read] at here
    rw [gather, if_neg fits, here]
    simp only [if_neg last]
    rfl
  | case8 line buffer silences past missing fits byte bytes next read longer ih =>
    have here := follows line (missing + 1)
    rw [read] at here
    rw [gather, if_neg fits, here, Gathered.over_noting, ih]

structure Recorded (decoder : Decoder) (takings : List Taking) (buffer : Octets) (silent : Nat)
    (past : List Octets) (answer : Progress) : Prop where
  under : Underway decoder takings
  holds : buffer = held takings
  counts : silent = silences takings
  shown : past = stages takings
  wants : answer = asked decoder takings

theorem recorded_start : Recorded decoder [] [] 0 [] (.needMore 1) :=
  ⟨.start, rfl, rfl, rfl, rfl⟩

section Rounds

variable {takings : List Taking} {buffer : Octets} {silent missing : Nat} {past : List Octets}
  (h : Recorded decoder takings buffer silent past (.needMore (missing + 1)))
  (fits : ¬ Link.capacity - buffer.length < missing + 1)
include h fits

theorem Recorded.due : Due decoder takings (missing + 1) := by
  have within := h.under.length_held
  rw [h.holds] at fits
  exact ⟨h.wants.symm, Nat.succ_pos missing, by omega⟩

theorem Recorded.pause (more : silent + 1 < Link.silenceLimit) :
    Recorded decoder (⟨missing + 1, .ok []⟩ :: takings) buffer (silent + 1) (buffer :: past)
      (decoder.progress past buffer) := by
  have due := h.due fits
  obtain ⟨under, rfl, rfl, rfl, wants⟩ := h
  have patient : silences (⟨missing + 1, .ok []⟩ :: takings) < Link.silenceLimit := by
    rwa [silences_silent]
  refine ⟨.read under due (Nat.zero_le _) patient, ?_, ?_, ?_, ?_⟩
  · rw [held_silent]
  · rw [silences_silent]
  · rw [stages, held_silent]
  · rw [asked, held_silent]

theorem Recorded.bytes {byte : UInt8} {bytes : Octets}
    (few : (byte :: bytes).length ≤ missing + 1) :
    Recorded decoder (⟨missing + 1, .ok (byte :: bytes)⟩ :: takings) (buffer ++ byte :: bytes) silent
      ((buffer ++ byte :: bytes) :: past) (decoder.progress past (buffer ++ byte :: bytes)) := by
  have due := h.due fits
  obtain ⟨under, rfl, rfl, rfl, wants⟩ := h
  have same := silences_bytes (missing + 1) byte bytes takings
  have patient : silences (⟨missing + 1, .ok (byte :: bytes)⟩ :: takings) < Link.silenceLimit := by
    rw [same]
    exact under.silences_lt
  exact ⟨.read under due few patient, rfl, same.symm, rfl, rfl⟩

end Rounds

/-- What the record of a loop has to do with what the loop leaves behind. -/
def Gathered.Recorded (decoder : Decoder) (gathered : Gathered (σ × List Taking)) : Prop :=
  Closed decoder gathered.line.2 gathered.past gathered.ending ∧
    gathered.buffer = held gathered.line.2

theorem gather_recorded (line : σ × List Taking) (buffer : Octets) (silent : Nat)
    (past : List Octets) (answer : Progress)
    (h : Recorded decoder line.2 buffer silent past answer) :
    (gather source.noted decoder line buffer silent past answer).Recorded decoder := by
  fun_induction gather source.noted decoder line buffer silent past answer with
  | case1 line buffer silent past =>
    obtain ⟨under, rfl, -, rfl, wants⟩ := h
    exact ⟨.complete under (Or.inl wants.symm), rfl⟩
  | case2 line buffer silent past =>
    obtain ⟨under, rfl, -, rfl, wants⟩ := h
    exact ⟨.complete under (Or.inr wants.symm), rfl⟩
  | case3 line buffer silent past =>
    obtain ⟨under, rfl, -, rfl, wants⟩ := h
    exact ⟨.malformed under wants.symm, rfl⟩
  | case4 line buffer silent past missing excess =>
    obtain ⟨under, rfl, -, rfl, wants⟩ := h
    exact ⟨.tooLarge under wants.symm excess, rfl⟩
  | case5 line buffer silent past missing fits fault next read =>
    have due := h.due fits
    obtain ⟨under, rfl, -, rfl, -⟩ := h
    rw [Gathered.Recorded, Source.noted_read read, held_fault]
    exact ⟨.failed under due, rfl⟩
  | case6 line buffer silent past missing fits next read more ih =>
    rw [Source.noted_read read] at ih
    exact ih (h.pause fits more)
  | case7 line buffer silent past missing fits next read last =>
    have due := h.due fits
    have few := h.under.silences_lt
    obtain ⟨under, rfl, rfl, rfl, -⟩ := h
    rw [Gathered.Recorded, Source.noted_read read, held_silent]
    exact ⟨.silent under due (by omega), rfl⟩
  | case8 line buffer silent past missing fits byte bytes next read longer ih =>
    rw [Source.noted_read read] at ih
    exact ih (h.bytes fits (Source.length_le_of_read read))

end Loop

/-! ## Whole receptions -/

section Start

variable {σ : Type} (source : Source σ) (decoder : Decoder) (line : σ)

def tape : List Taking := (start source.noted decoder (line, [])).line.2

theorem start_noted :
    (start source.noted decoder (line, [])).over Prod.fst = start source decoder line :=
  gather_over Prod.fst (fun _ _ => rfl) (line, []) [] 0 [] (.needMore 1)

theorem start_recorded :
    Closed decoder (tape source decoder line) (start source decoder line).past
        (start source decoder line).ending ∧
      (start source decoder line).buffer = held (tape source decoder line) := by
  have recorded : (start source.noted decoder (line, [])).Recorded decoder :=
    gather_recorded (line, []) [] 0 [] (.needMore 1) recorded_start
  rw [← start_noted source decoder line]
  exact recorded

theorem start_ran :
    source.Ran line (tape source decoder line) (start source decoder line).line := by
  have keeps : ∀ (both : σ × List Taking) (size : Nat), source.Ran line both.2 both.1 →
      source.Ran line (source.noted.read both size).2.2 (source.noted.read both size).2.1 := by
    intro both size before
    exact before.read size
  rw [← start_noted source decoder line]
  exact gather_preserves (P := fun both => source.Ran line both.2 both.1) keeps (line, []) [] 0 []
    (.needMore 1) .start

end Start

end Reception

end MeterBus
