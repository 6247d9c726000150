import Mathlib.Data.List.Basic
import MeterBus.Proofs.Line.Items

/-! # A script is played in order

What is queued for an adapter comes out of its reads once and in the order in which it was queued,
however cues, reads and all other uses of the lines on it are mixed. What one read may do is listed
in `Serves`: it gives a piece of the chunk in front, or takes the step in front away. A run keeps two
laws of such steps: what was taken and what is still queued are together what was queued, and the
queue is the end of what was queued, with at most its first chunk cut short.

* `Deed`, `Adapter.perform`, `Adapter.performAll`: what is done to an adapter.
* `Reading`, `Adapter.readings`: the reads of a run, each with the adapter before and after it.
* `Serves`, `serves_take`: what one read does to the queue.
* `Remains`: the end of a queue.
* `perform_cases`: a deed is a read or adds to the queue.
* `perform_items`, `perform_remains`: what one deed keeps.
* `played_in_order`: the main result.
-/
namespace MeterBus
set_option autoImplicit false

namespace Adapter

/-! ## Deeds -/

/-- What is done to an adapter, by its script or by a line that is open on it. -/
inductive Deed where
  | cue (cue : Cue)
  | read (size : Nat)
  | openAt (path : String) (rate : Rate)
  | close
  | write (bytes : Octets)
  | drain
  | retune (rate : Rate)

def perform (adapter : Adapter) : Deed → Adapter
  | .cue cue => adapter.cue cue
  | .read size => (adapter.read size).2
  | .openAt path rate => (adapter.openAt path rate).2
  | .close => adapter.close
  | .write bytes => (adapter.write bytes).2
  | .drain => adapter.drain
  | .retune rate => (adapter.retune rate).2

def performAll (adapter : Adapter) (deeds : List Deed) : Adapter := deeds.foldl perform adapter

/-- What a line of script queues. -/
def cued : Cue → List Delivery
  | .data bytes => [.data bytes]
  | .frame frame => [.data (frame.encode.toOption.getD [])]
  | .silence count => List.replicate count .silence
  | .readFault kind => [.fault kind]
  | .refuseOpen _ | .refuseRate _ | .limitWrites _ | .refuseWrite _ => []

def queued : Deed → List Delivery
  | .cue cue => cued cue
  | _ => []

def Delivery.bytes : Delivery → Octets
  | .data bytes => bytes
  | _ => []

theorem octets_items (queue : List Delivery) :
    Item.octets (queue.flatMap Delivery.items) = queue.flatMap Delivery.bytes := by
  rw [Item.octets, List.filterMap_flatMap]
  refine congrArg queue.flatMap (funext fun delivery => ?_)
  cases delivery with
  | silence | fault => rfl
  | data bytes =>
    cases bytes with
    | nil => rfl
    | cons byte bytes => exact Item.octets_map (byte :: bytes)

theorem incoming_cue (adapter : Adapter) (cue : Cue) :
    (adapter.cue cue).incoming = adapter.incoming ++ cued cue := by
  cases cue with
  | data | frame | silence | readFault => rfl
  | refuseOpen | refuseRate | limitWrites | refuseWrite => exact (List.append_nil _).symm

/-! ## One read -/

/-- What a read of at most `size` bytes may do: the queue before it, its answer, the items it takes
away, and the queue after it. -/
inductive Serves (size : Nat) :
    List Delivery → Except IoFault Octets → List Item → List Delivery → Prop where
  | dry : Serves size [] (.ok []) [] []
  /-- A chunk that fits is given whole. -/
  | whole (chunk : Octets) (rest : List Delivery) (some : chunk ≠ []) (fits : chunk.length ≤ size) :
    Serves size (.data chunk :: rest) (.ok chunk) (chunk.map .octet) rest
  /-- Of a longer chunk as much is given as fits. -/
  | part (piece left : Octets) (rest : List Delivery) (some : piece ≠ []) (more : left ≠ [])
    (full : piece.length = size) :
    Serves size (.data (piece ++ left) :: rest) (.ok piece) (piece.map .octet) (.data left :: rest)
  /-- A read of no bytes leaves a chunk alone. -/
  | untouched (chunk : Octets) (rest : List Delivery) (some : chunk ≠ []) (zero : size = 0) :
    Serves size (.data chunk :: rest) (.ok []) [] (.data chunk :: rest)
  | empty (rest : List Delivery) : Serves size (.data [] :: rest) (.ok []) [.pause] rest
  | silence (rest : List Delivery) : Serves size (.silence :: rest) (.ok []) [.pause] rest
  | fault (kind : IoFault.Kind) (rest : List Delivery) :
    Serves size (.fault kind :: rest) (.error ⟨kind, "mock read failure"⟩) [.fault kind] rest

theorem serves_take (size : Nat) (queue : List Delivery) :
    ∃ taken, Serves size queue (take size queue).1 taken (take size queue).2 := by
  match queue with
  | [] => exact ⟨_, .dry⟩
  | .silence :: rest => exact ⟨_, .silence rest⟩
  | .fault kind :: rest => exact ⟨_, .fault kind rest⟩
  | .data [] :: rest =>
    rw [take, List.take_nil, List.drop_nil]
    exact ⟨_, .empty rest⟩
  | .data (byte :: bytes) :: rest =>
    generalize same : byte :: bytes = chunk
    have some : chunk ≠ [] := same ▸ List.cons_ne_nil byte bytes
    rw [take]
    -- a read of no bytes leaves the chunk as it is, a shorter one its end, any other nothing
    rcases Nat.eq_zero_or_pos size with zero | positive
    · rw [zero, List.take_zero, List.drop_zero, if_neg (by simpa using some)]
      exact ⟨_, .untouched chunk rest some rfl⟩
    rcases Nat.lt_or_ge size chunk.length with long | fits
    · have piece : chunk.take size ≠ [] := by
        rw [ne_eq, List.take_eq_nil_iff]
        rintro (none | none)
        · omega
        · exact some none
      have left : chunk.drop size ≠ [] := by
        rw [ne_eq, List.drop_eq_nil_iff]
        omega
      have full : (chunk.take size).length = size := by
        rw [List.length_take]
        omega
      have served := Serves.part (chunk.take size) (chunk.drop size) rest piece left full
      rw [List.take_append_drop] at served
      rw [if_neg (by simpa using long)]
      exact ⟨_, served⟩
    · rw [List.take_of_length_le fits, List.drop_of_length_le fits, List.isEmpty_nil, if_pos rfl]
      exact ⟨_, .whole chunk rest some fits⟩

section Served

variable {size : Nat} {before after : List Delivery} {answer : Except IoFault Octets}
  {taken : List Item}

/-- Nothing but what is taken leaves the queue. -/
theorem Serves.items (h : Serves size before answer taken after) :
    before.flatMap Delivery.items = taken ++ after.flatMap Delivery.items := by
  cases h with
  | dry => rfl
  | whole chunk rest some fits => rw [List.flatMap_cons, Delivery.items_data some]
  | part piece left rest some more full =>
    have both : piece ++ left ≠ [] := List.append_ne_nil_of_left_ne_nil some left
    rw [List.flatMap_cons, List.flatMap_cons, Delivery.items_data both, Delivery.items_data more,
      List.map_append, List.append_assoc]
  | untouched | empty | silence | fault => rfl

/-- The bytes taken are those of the answer. -/
theorem Serves.octets (h : Serves size before answer taken after) :
    Item.octets taken = answer.toOption.getD [] := by
  cases h with
  | whole chunk rest some fits => exact Item.octets_map chunk
  | part piece left rest some more full => exact Item.octets_map piece
  | dry | untouched | empty | silence | fault => rfl

end Served

/-! ## What is left of a queue -/

/-- `Remains queued queue`: the queue is the end of what was queued. Its first chunk may be the end
of a chunk. -/
inductive Remains : List Delivery → List Delivery → Prop where
  | whole (spent queue : List Delivery) : Remains (spent ++ queue) queue
  | begun (spent : List Delivery) (front back : Octets) (later : List Delivery) (more : back ≠ []) :
    Remains (spent ++ .data (front ++ back) :: later) (.data back :: later)

section Remaining

variable {all queue : List Delivery}

theorem Remains.append (h : Remains all queue) (more : List Delivery) :
    Remains (all ++ more) (queue ++ more) := by
  cases h with
  | whole spent =>
    rw [List.append_assoc]
    exact .whole spent (queue ++ more)
  | begun spent head back later some =>
    rw [List.append_assoc, List.cons_append]
    exact .begun spent head back (later ++ more) some

theorem Remains.tail {delivery : Delivery} (h : Remains all (delivery :: queue)) :
    Remains all queue := by
  generalize same : delivery :: queue = front at h
  cases h with
  | whole spent =>
    rw [← same, List.append_cons]
    exact .whole (spent ++ [delivery]) queue
  | begun spent head back later more =>
    -- with the end of a chunk the whole chunk is spent
    obtain ⟨-, rfl⟩ := List.cons.inj same
    rw [List.append_cons]
    exact .whole (spent ++ [.data (head ++ back)]) queue

theorem Remains.cut {piece left : Octets} (h : Remains all (.data (piece ++ left) :: queue))
    (more : left ≠ []) : Remains all (.data left :: queue) := by
  generalize same : Delivery.data (piece ++ left) :: queue = front at h
  cases h with
  | whole spent =>
    rw [← same]
    exact .begun spent piece left queue more
  | begun spent head back later =>
    obtain ⟨chunk, rfl⟩ := List.cons.inj same
    obtain rfl := Delivery.data.inj chunk
    rw [← List.append_assoc]
    exact .begun spent (head ++ piece) left queue more

theorem Remains.serves {size : Nat} {answer : Except IoFault Octets} {taken : List Item}
    {after : List Delivery} (h : Remains all queue) (served : Serves size queue answer taken after) :
    Remains all after := by
  cases served with
  | dry | untouched => exact h
  | whole | empty | silence | fault => exact h.tail
  | part piece left rest some more full => exact h.cut more

end Remaining

/-! ## The reads of a run -/

/-- A read with the adapter before and after it. -/
structure Reading where
  size : Nat
  before : Adapter
  answer : Except IoFault Octets
  after : Adapter

namespace Reading

def make (adapter : Adapter) (size : Nat) : Reading :=
  ⟨size, adapter, (adapter.read size).1, (adapter.read size).2⟩

def bytes (reading : Reading) : Octets := reading.answer.toOption.getD []

/-- The items that the adapter had to deliver before the read and has no longer. -/
def taken (reading : Reading) : List Item :=
  reading.before.items.take (reading.before.items.length - reading.after.items.length)

/-- A read serves from the queue and leaves the rest of the adapter as it was, but for the record of
its size. -/
structure Sound (reading : Reading) : Prop where
  serves : Serves reading.size reading.before.incoming reading.answer reading.taken
    reading.after.incoming
  apart : reading.after = { reading.before with
    incoming := reading.after.incoming
    pastReads := reading.size :: reading.before.pastReads }

theorem make_sound (adapter : Adapter) (size : Nat) : (make adapter size).Sound := by
  obtain ⟨eaten, served⟩ := serves_take size adapter.incoming
  have same : (make adapter size).taken = eaten := by
    -- what was taken lies in front of what is left, so the lengths find it
    have split : adapter.items = eaten ++ (adapter.read size).2.items := served.items
    show adapter.items.take (adapter.items.length - (adapter.read size).2.items.length) = eaten
    rw [split, List.length_append, Nat.add_sub_cancel, List.take_left]
  exact ⟨same ▸ served, rfl⟩

end Reading

/-- The reads among a deed, which are one or none. -/
def reading (adapter : Adapter) : Deed → List Reading
  | .read size => [.make adapter size]
  | _ => []

def readings (adapter : Adapter) : List Deed → List Reading
  | [] => []
  | deed :: deeds => adapter.reading deed ++ (adapter.perform deed).readings deeds

/-- **A deed is a read, or it adds to the queue what it queues.** -/
theorem perform_cases (adapter : Adapter) (deed : Deed) :
    (∃ size, deed = .read size) ∨
      adapter.reading deed = [] ∧
        (adapter.perform deed).incoming = adapter.incoming ++ queued deed := by
  cases deed with
  | read size => exact Or.inl ⟨size, rfl⟩
  | cue cue => exact Or.inr ⟨rfl, adapter.incoming_cue cue⟩
  | close | drain => exact Or.inr ⟨rfl, (List.append_nil _).symm⟩
  | openAt path rate =>
    have kept : (adapter.openAt path rate).2.incoming = adapter.incoming := by
      rw [openAt]
      split <;> rfl
    exact Or.inr ⟨rfl, kept.trans (List.append_nil _).symm⟩
  | write bytes =>
    have kept : (adapter.write bytes).2.incoming = adapter.incoming := by
      rw [write]
      split <;> rfl
    exact Or.inr ⟨rfl, kept.trans (List.append_nil _).symm⟩
  | retune rate =>
    have kept : (adapter.retune rate).2.incoming = adapter.incoming := by
      rw [retune]
      split <;> rfl
    exact Or.inr ⟨rfl, kept.trans (List.append_nil _).symm⟩

theorem readings_sound {deeds : List Deed} {adapter : Adapter} {reading : Reading}
    (h : reading ∈ adapter.readings deeds) : reading.Sound := by
  induction deeds generalizing adapter with
  | nil => exact absurd h List.not_mem_nil
  | cons deed deeds ih =>
    rcases List.mem_append.mp h with now | later
    · rcases adapter.perform_cases deed with ⟨size, rfl⟩ | ⟨unread, -⟩
      · obtain rfl := List.mem_singleton.mp now
        exact Reading.make_sound adapter size
      · rw [unread] at now
        exact absurd now List.not_mem_nil
    · exact ih later

/-! ## What a deed keeps, and what a run keeps -/

theorem perform_items (adapter : Adapter) (deed : Deed) :
    (adapter.reading deed).flatMap Reading.taken ++ (adapter.perform deed).items =
      adapter.items ++ (queued deed).flatMap Delivery.items := by
  rcases adapter.perform_cases deed with ⟨size, rfl⟩ | ⟨unread, added⟩
  · have split : adapter.items = (Reading.make adapter size).taken ++ (adapter.read size).2.items :=
      (Reading.make_sound adapter size).serves.items
    show [Reading.make adapter size].flatMap Reading.taken ++ (adapter.read size).2.items =
      adapter.items ++ []
    rw [List.flatMap_singleton, List.append_nil, ← split]
  · rw [unread, items, added, List.flatMap_append]
    rfl

theorem perform_remains {all : List Delivery} {adapter : Adapter} (h : Remains all adapter.incoming)
    (deed : Deed) : Remains (all ++ queued deed) (adapter.perform deed).incoming := by
  rcases adapter.perform_cases deed with ⟨size, rfl⟩ | ⟨-, added⟩
  · obtain ⟨taken, served⟩ := serves_take size adapter.incoming
    show Remains (all ++ []) (adapter.read size).2.incoming
    rw [List.append_nil]
    exact h.serves served
  · rw [added]
    exact h.append (queued deed)

theorem readings_items (adapter : Adapter) (deeds : List Deed) :
    (adapter.readings deeds).flatMap Reading.taken ++ (adapter.performAll deeds).items =
      adapter.items ++ (deeds.flatMap queued).flatMap Delivery.items := by
  induction deeds generalizing adapter with
  | nil => exact (List.append_nil _).symm
  | cons deed deeds ih =>
    have later := ih (adapter.perform deed)
    calc (adapter.readings (deed :: deeds)).flatMap Reading.taken ++
          (adapter.performAll (deed :: deeds)).items
        = (adapter.reading deed).flatMap Reading.taken ++
            (((adapter.perform deed).readings deeds).flatMap Reading.taken ++
              ((adapter.perform deed).performAll deeds).items) := by
          rw [readings, List.flatMap_append, List.append_assoc]
          rfl
      _ = (adapter.reading deed).flatMap Reading.taken ++ (adapter.perform deed).items ++
            (deeds.flatMap queued).flatMap Delivery.items := by
          rw [later, List.append_assoc]
      _ = adapter.items ++ ((deed :: deeds).flatMap queued).flatMap Delivery.items := by
          rw [perform_items, List.flatMap_cons, List.flatMap_append, List.append_assoc]

theorem performAll_remains {all : List Delivery} {adapter : Adapter}
    (h : Remains all adapter.incoming) (deeds : List Deed) :
    Remains (all ++ deeds.flatMap queued) (adapter.performAll deeds).incoming := by
  induction deeds generalizing all adapter with
  | nil =>
    rw [List.flatMap_nil, List.append_nil]
    exact h
  | cons deed deeds ih =>
    rw [List.flatMap_cons, ← List.append_assoc]
    exact ih (perform_remains h deed)

/-- **The script is played in order.** Over any run of cues, reads of any size and other uses of the
lines on an adapter, the bytes given by the reads and those still queued are the bytes queued, in
order, and so are all items with the silences and faults in their places. At every moment the queue
is the end of what was queued, and every read serves from the chunk or step in front of it. -/
theorem played_in_order (adapter : Adapter) (deeds : List Deed) :
    let all := adapter.incoming ++ deeds.flatMap queued
    let made := adapter.readings deeds
    let left := (adapter.performAll deeds).incoming
    made.flatMap Reading.bytes ++ left.flatMap Delivery.bytes = all.flatMap Delivery.bytes ∧
      made.flatMap Reading.taken ++ left.flatMap Delivery.items = all.flatMap Delivery.items ∧
      Remains all left ∧ ∀ reading ∈ made, reading.Sound := by
  intro all made left
  have sound : ∀ reading ∈ made, reading.Sound := fun reading h => readings_sound h
  have items : made.flatMap Reading.taken ++ left.flatMap Delivery.items =
      all.flatMap Delivery.items := by
    rw [List.flatMap_append]
    exact adapter.readings_items deeds
  have given : Item.octets (made.flatMap Reading.taken) = made.flatMap Reading.bytes := by
    rw [Item.octets, List.filterMap_flatMap]
    exact List.flatMap_congr fun reading h => (sound reading h).serves.octets
  refine ⟨?_, items, performAll_remains (.whole [] adapter.incoming) deeds, sound⟩
  rw [← given, ← octets_items, ← octets_items, ← Item.octets_append, items]

end Adapter

end MeterBus
