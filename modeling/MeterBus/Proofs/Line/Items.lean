import MeterBus.Reception

/-! # A line as a sequence of items

The queue of an adapter with its chunk boundaries forgotten: bytes, pauses and faults in the order
in which they arrive. An empty chunk is a pause like any silence.

* `Adapter.items`: what an adapter still has to deliver.
* `Reads`: what one read may answer and take from a sequence of items.
* `Source.Plays`: a source whose every read takes from the items in view.
* `Item.source`: the items as a source of their own, one at a time.
* `Adapter.bytewise`: an adapter that is never asked for more than one byte.
-/
namespace MeterBus
set_option autoImplicit false

/-- What a read of a single byte finds on the line. -/
inductive Item where
  | octet (byte : UInt8)
  | pause
  | fault (kind : IoFault.Kind)
  deriving DecidableEq, Repr

namespace Item

def octet? : Item → Option UInt8
  | octet byte => some byte
  | _ => none

/-- The bytes among the items, in order. -/
def octets (items : List Item) : Octets := items.filterMap octet?

@[simp] theorem octets_append (first second : List Item) :
    octets (first ++ second) = octets first ++ octets second := List.filterMap_append

@[simp] theorem octets_map (bytes : Octets) : octets (bytes.map octet) = bytes := by
  rw [octets, List.filterMap_map]
  exact List.filterMap_some

end Item

/-! ## The queue of an adapter -/

def Adapter.Delivery.items : Adapter.Delivery → List Item
  | .data [] => [.pause]
  | .data (byte :: bytes) => (byte :: bytes).map .octet
  | .silence => [.pause]
  | .fault kind => [.fault kind]

/-- What the adapter still has to deliver. -/
def Adapter.items (adapter : Adapter) : List Item := adapter.incoming.flatMap Delivery.items

theorem Adapter.Delivery.items_data {bytes : Octets} (some : bytes ≠ []) :
    (Adapter.Delivery.data bytes).items = bytes.map .octet := by
  cases bytes with
  | nil => exact absurd rfl some
  | cons byte bytes => rfl

/-! ## Reads -/

/-- `Reads answer before after`: a read may answer so and take the items in front of `after` away.
A line that has nothing to deliver is silent. -/
inductive Reads : Except IoFault Octets → List Item → List Item → Prop where
  | octets (bytes : Octets) (after : List Item) (some : bytes ≠ []) :
    Reads (.ok bytes) (bytes.map .octet ++ after) after
  | pause (after : List Item) : Reads (.ok []) (.pause :: after) after
  | dry : Reads (.ok []) [] []
  | fault (kind : IoFault.Kind) (after : List Item) :
    Reads (.error ⟨kind, "mock read failure"⟩) (.fault kind :: after) after

theorem reads_take {size : Nat} (queue : List Adapter.Delivery) (positive : 0 < size) :
    Reads (Adapter.take size queue).1 (queue.flatMap Adapter.Delivery.items)
      ((Adapter.take size queue).2.flatMap Adapter.Delivery.items) := by
  match queue with
  | [] => exact .dry
  | .silence :: rest => exact .pause _
  | .fault kind :: rest => exact .fault kind _
  | .data [] :: rest =>
    rw [Adapter.take, List.take_nil, List.drop_nil]
    exact .pause _
  | .data (byte :: bytes) :: rest =>
    have some : (byte :: bytes).take size ≠ [] := by
      rw [ne_eq, List.take_eq_nil_iff]
      simp only [reduceCtorEq, or_false]
      omega
    have front : Adapter.Delivery.items (.data (byte :: bytes)) =
        ((byte :: bytes).take size).map .octet ++ ((byte :: bytes).drop size).map .octet := by
      rw [← List.map_append, List.take_append_drop]
      rfl
    rw [Adapter.take, List.flatMap_cons, front, List.append_assoc]
    by_cases all : (byte :: bytes).drop size = []
    · simp only [all, List.isEmpty_nil, if_true, List.map_nil, List.nil_append]
      exact .octets _ _ some
    · simp only [List.isEmpty_iff, all, if_false, List.flatMap_cons, Adapter.Delivery.items_data all]
      exact .octets _ _ some

/-- What a read takes away holds the bytes of its answer and no others. -/
theorem Reads.eaten {answer : Except IoFault Octets} {before after : List Item}
    (h : Reads answer before after) :
    ∃ eaten, before = eaten ++ after ∧ Item.octets eaten = answer.toOption.getD [] := by
  cases h with
  | octets bytes after some => exact ⟨bytes.map .octet, rfl, Item.octets_map bytes⟩
  | pause after => exact ⟨[.pause], rfl, rfl⟩
  | dry => exact ⟨[], rfl, rfl⟩
  | fault kind after => exact ⟨[.fault kind], rfl, rfl⟩

structure Source.Plays {σ : Type} (source : Source σ) (view : σ → List Item) : Prop where
  reads : ∀ line size, 0 < size →
    Reads (source.read line size).1 (view line) (view (source.read line size).2)

theorem Source.length_le_of_read {σ : Type} {source : Source σ} {line next : σ} {size : Nat}
    {bytes : Octets} (read : source.read line size = (.ok bytes, next)) : bytes.length ≤ size := by
  apply source.read_le line
  rw [read]

theorem Source.Plays.of_read {σ : Type} {source : Source σ} {view : σ → List Item}
    (plays : source.Plays view) {line next : σ} {missing : Nat} {answer : Except IoFault Octets}
    (read : source.read line (missing + 1) = (answer, next)) :
    Reads answer (view line) (view next) := by
  have reads := plays.reads line (missing + 1) (Nat.succ_pos missing)
  rwa [read] at reads

theorem Adapter.source_plays : Adapter.source.Plays Adapter.items where
  reads adapter _ positive := reads_take adapter.incoming positive

/-- The adapter as a source that is asked for one byte whatever is wanted. -/
def Adapter.bytewise : Source Adapter where
  read adapter size := adapter.read (min size 1)
  read_le adapter size bytes h :=
    Nat.le_trans (Adapter.source.read_le adapter (min size 1) bytes h) (Nat.min_le_left size 1)

theorem Adapter.bytewise_plays : Adapter.bytewise.Plays Adapter.items where
  reads adapter _ positive :=
    reads_take adapter.incoming (Nat.lt_min.mpr ⟨positive, Nat.one_pos⟩)

/-! ## The items as a line of their own -/

/-- Takes the item in front, a byte only if it is wanted. -/
def Item.take (size : Nat) : List Item → Except IoFault Octets × List Item
  | [] => (.ok [], [])
  | .pause :: rest => (.ok [], rest)
  | .fault kind :: rest => (.error ⟨kind, "mock read failure"⟩, rest)
  | .octet byte :: rest => if size = 0 then (.ok [], .octet byte :: rest) else (.ok [byte], rest)

/-- The items as a source, one at a time. -/
def Item.source : Source (List Item) where
  read items size := Item.take size items
  read_le items size bytes h := by
    match items with
    | [] | .pause :: _ =>
      obtain rfl := Except.ok.inj h
      exact Nat.zero_le size
    | .octet byte :: _ =>
      simp only [Item.take] at h
      split at h
      case isTrue =>
        obtain rfl := Except.ok.inj h
        exact Nat.zero_le size
      case isFalse positive =>
        obtain rfl := Except.ok.inj h
        exact Nat.pos_of_ne_zero positive

theorem Item.source_octet (byte : UInt8) (rest : List Item) {size : Nat} (positive : 0 < size) :
    Item.source.read (.octet byte :: rest) size = (.ok [byte], rest) :=
  if_neg (Nat.ne_of_gt positive)

theorem Reads.source_fault {fault : IoFault} {before after : List Item}
    (h : Reads (.error fault) before after) (size : Nat) :
    Item.source.read before size = (.error fault, after) := by
  cases h with
  | fault kind after => rfl

theorem Reads.source_pause {before after : List Item} (h : Reads (.ok []) before after)
    (size : Nat) : Item.source.read before size = (.ok [], after) := by
  generalize empty : ([] : Octets) = bytes at h
  cases h with
  | octets bytes after some => exact absurd empty.symm some
  | pause after => rfl
  | dry => rfl

theorem Reads.eq_octets {byte : UInt8} {bytes : Octets} {before after : List Item}
    (h : Reads (.ok (byte :: bytes)) before after) :
    before = (byte :: bytes).map .octet ++ after := by
  cases h with
  | octets bytes after some => rfl

end MeterBus
