import MeterBus.Adapter

/-! # What the record of an adapter can look like

An adapter that one user opens and closes in turn is used in sittings: opened at the initial rate,
then retuned and written to, drained directly behind a write, and closed. `History` follows the
record from its latest event, with what the line is driven as behind it; `History.sittings` reads it
from the front. `Adapter.Shows` adds that flag and rate of the adapter agree with the record, and
has a lemma for each operation of an open line.
-/
namespace MeterBus
set_option autoImplicit false

namespace Adapter

/-! ## Reading a record -/

def Event.isOpening : Event → Bool
  | .opened _ _ => true
  | _ => false

def Event.isClosing : Event → Bool
  | .closed => true
  | _ => false

/-- The rate that an event puts in force. -/
def Event.rate? : Event → Option Rate
  | .opened _ rate => some rate
  | .retuned rate => some rate
  | _ => none

def openings (adapter : Adapter) : Nat := adapter.events.countP Event.isOpening

def closings (adapter : Adapter) : Nat := adapter.events.countP Event.isClosing

/-- The rate of the last event that put one in force. -/
def lastRate (adapter : Adapter) : Option Rate := (adapter.events.filterMap Event.rate?).getLast?

theorem openings_eq (adapter : Adapter) :
    adapter.openings = adapter.past.countP Event.isOpening := List.countP_reverse

theorem closings_eq (adapter : Adapter) :
    adapter.closings = adapter.past.countP Event.isClosing := List.countP_reverse

theorem lastRate_eq (adapter : Adapter) :
    adapter.lastRate = (adapter.past.filterMap Event.rate?).head? := by
  rw [lastRate, events, List.filterMap_reverse, List.getLast?_reverse]

/-- What can happen on an open line, first event first. -/
inductive Traffic : List Event → Prop where
  | none : Traffic []
  | retuned {events : List Event} (rate : Rate) (rest : Traffic events) :
    Traffic (.retuned rate :: events)
  | wrote {events : List Event} (bytes : Octets) (rest : Traffic events) :
    Traffic (.wrote bytes :: events)
  | delivered {events : List Event} (bytes : Octets) (rest : Traffic events) :
    Traffic (.wrote bytes :: .drained :: events)

theorem Traffic.append {first second : List Event} (h : Traffic first) (h' : Traffic second) :
    Traffic (first ++ second) := by
  induction h with
  | none => exact h'
  | retuned rate _ ih => exact .retuned rate ih
  | wrote bytes _ ih => exact .wrote bytes ih
  | delivered bytes _ ih => exact .delivered bytes ih

/-- A device opened at the initial rate and used. -/
def Begun (device : String) (events : List Event) : Prop :=
  ∃ traffic, Traffic traffic ∧ events = .opened device Rate.initial :: traffic

/-- The same with the closing at its end. -/
def Sitting (device : String) (events : List Event) : Prop :=
  ∃ begun, Begun device begun ∧ events = begun ++ [.closed]

theorem Begun.append {device : String} {events more : List Event} (h : Begun device events)
    (traffic : Traffic more) : Begun device (events ++ more) := by
  obtain ⟨before, used, rfl⟩ := h
  exact ⟨before ++ more, used.append traffic, rfl⟩

/-! ## The record from its latest event -/

/-- `History known line past`: the record, latest event first, of an adapter that is now driven as
`line` says, a device and a rate, and that was opened as known devices only. -/
inductive History (known : String → Prop) : Option (String × Rate) → List Event → Prop where
  | fresh : History known none []
  | opened {past : List Event} {device : String} (named : known device)
    (before : History known none past) :
    History known (some (device, Rate.initial)) (.opened device Rate.initial :: past)
  | retuned {past : List Event} {device : String} {rate : Rate} (rate' : Rate)
    (before : History known (some (device, rate)) past) :
    History known (some (device, rate')) (.retuned rate' :: past)
  | wrote {past : List Event} {device : String} {rate : Rate} (bytes : Octets)
    (before : History known (some (device, rate)) past) :
    History known (some (device, rate)) (.wrote bytes :: past)
  | delivered {past : List Event} {device : String} {rate : Rate} (bytes : Octets)
    (before : History known (some (device, rate)) past) :
    History known (some (device, rate)) (.drained :: .wrote bytes :: past)
  | closed {past : List Event} {device : String} {rate : Rate}
    (before : History known (some (device, rate)) past) : History known none (.closed :: past)

section

variable {known : String → Prop} {line : Option (String × Rate)} {past : List Event}

theorem History.balance (h : History known line past) :
    past.countP Event.isOpening =
      past.countP Event.isClosing + if line.isSome then 1 else 0 := by
  induction h with
  | fresh => rfl
  | opened named before ih =>
    rw [List.countP_cons_of_pos rfl, List.countP_cons_of_neg Bool.false_ne_true, ih]
    rfl
  | retuned _ before ih | wrote _ before ih | delivered _ before ih => exact ih
  | closed before ih =>
    rw [List.countP_cons_of_neg Bool.false_ne_true, List.countP_cons_of_pos rfl, ih]
    rfl

theorem History.rate {device : String} {rate : Rate}
    (h : History known (some (device, rate)) past) :
    (past.filterMap Event.rate?).head? = some rate := by
  generalize driven : some (device, rate) = line at h
  induction h generalizing device rate with
  | fresh => exact nomatch driven
  | opened | retuned =>
    obtain ⟨rfl, rfl⟩ := Prod.mk.inj (Option.some.inj driven)
    rfl
  | wrote bytes before ih => exact ih driven
  | delivered bytes before ih => exact ih driven
  | closed => exact nomatch driven

/-- The record is one sitting behind the other, and the line is in use exactly if the last of them
has no closing yet. -/
theorem History.sittings (h : History known line past) :
    ∃ (finished : List (List Event)) (last : List Event),
      past.reverse = finished.flatten ++ last ∧
        (∀ sitting ∈ finished, ∃ device, known device ∧ Sitting device sitting) ∧
        match line with
        | none => last = []
        | some (device, _) => known device ∧ Begun device last := by
  induction h with
  | fresh => exact ⟨[], [], rfl, by simp, rfl⟩
  | @opened past device named before ih =>
    obtain ⟨finished, last, split, sat, rfl⟩ := ih
    refine ⟨finished, [.opened device Rate.initial], ?_, sat, named, [], .none, rfl⟩
    rw [List.reverse_cons, split, List.append_nil]
  | @retuned past device rate rate' before ih =>
    obtain ⟨finished, last, split, sat, named, begun⟩ := ih
    refine ⟨finished, last ++ [.retuned rate'], ?_, sat, named, begun.append (.retuned rate' .none)⟩
    rw [List.reverse_cons, split, List.append_assoc]
  | @wrote past device rate bytes before ih =>
    obtain ⟨finished, last, split, sat, named, begun⟩ := ih
    refine ⟨finished, last ++ [.wrote bytes], ?_, sat, named, begun.append (.wrote bytes .none)⟩
    rw [List.reverse_cons, split, List.append_assoc]
  | @delivered past device rate bytes before ih =>
    obtain ⟨finished, last, split, sat, named, begun⟩ := ih
    refine ⟨finished, last ++ [.wrote bytes, .drained], ?_, sat, named,
      begun.append (.delivered bytes .none)⟩
    rw [List.reverse_cons, List.reverse_cons, split]
    simp only [List.append_assoc, List.singleton_append]
  | @closed past device rate before ih =>
    obtain ⟨finished, last, split, sat, named, begun⟩ := ih
    refine ⟨finished ++ [last ++ [.closed]], [], ?_, ?_, rfl⟩
    · rw [List.reverse_cons, split, List.flatten_append, List.flatten_singleton, List.append_nil,
        List.append_assoc]
    · intro sitting member
      rcases List.mem_append.mp member with earlier | latest
      · exact sat sitting earlier
      · obtain rfl := List.mem_singleton.mp latest
        exact ⟨device, named, last, begun, rfl⟩

/-! ## An adapter that agrees with its record -/

/-- Record, flag and rate of an adapter all show that the line is driven as `line` says. -/
structure Shows (known : String → Prop) (line : Option (String × Rate)) (adapter : Adapter) :
    Prop where
  history : History known line adapter.past
  isOpen : adapter.isOpen = line.isSome
  rate : ∀ device rate, line = some (device, rate) → adapter.rate = some rate

theorem shows_fresh : Shows known none {} where
  history := .fresh
  isOpen := rfl
  rate := by simp

/-- What leaves record, flag and rate alone changes nothing of this. -/
theorem Shows.of_eq {adapter adapter' : Adapter} (h : Shows known line adapter)
    (past : adapter'.past = adapter.past) (isOpen : adapter'.isOpen = adapter.isOpen)
    (rate : adapter'.rate = adapter.rate) : Shows known line adapter' where
  history := past ▸ h.history
  isOpen := isOpen.trans h.isOpen
  rate device fixed driven := rate.trans (h.rate device fixed driven)

theorem Shows.cue {adapter : Adapter} (h : Shows known line adapter) (cue : Cue) :
    Shows known line (adapter.cue cue) := by
  cases cue <;> exact h.of_eq rfl rfl rfl

theorem Shows.openAt {adapter : Adapter} (h : Shows known none adapter) {path : String}
    (named : known path) :
    match adapter.openAt path Rate.initial with
    | (.ok (), adapter') => Shows known (some (path, Rate.initial)) adapter'
    | (.error _, adapter') => Shows known none adapter' := by
  unfold Adapter.openAt
  cases adapter.refusesOpen with
  | some fault => exact h
  | none =>
    refine ⟨.opened named h.history, rfl, ?_⟩
    intro device rate driven
    obtain ⟨rfl, rfl⟩ := Prod.mk.inj (Option.some.inj driven)
    rfl

end

section

variable {known : String → Prop} {device : String} {rate : Rate} {adapter : Adapter}
  (h : Shows known (some (device, rate)) adapter)
include h

theorem Shows.close : Shows known none adapter.close where
  history := .closed h.history
  isOpen := rfl
  rate := by simp

theorem Shows.retune (rate' : Rate) :
    match adapter.retune rate' with
    | (.ok (), adapter') => Shows known (some (device, rate')) adapter'
    | (.error _, adapter') => Shows known (some (device, rate)) adapter' := by
  unfold Adapter.retune
  cases adapter.refusesRate with
  | true => exact h
  | false =>
    refine ⟨.retuned rate' h.history, h.isOpen, ?_⟩
    intro path fixed driven
    obtain ⟨rfl, rfl⟩ := Prod.mk.inj (Option.some.inj driven)
    rfl

/-- A write may be followed by a drain if anything was written. -/
theorem Shows.write (bytes : Octets) :
    match adapter.write bytes with
    | (.ok _, adapter') =>
      Shows known (some (device, rate)) adapter' ∧ Shows known (some (device, rate)) adapter'.drain
    | (.error _, adapter') => Shows known (some (device, rate)) adapter' := by
  unfold Adapter.write
  cases adapter.refusesWrite with
  | some kind => exact h.of_eq rfl rfl rfl
  | none =>
    exact ⟨⟨.wrote _ h.history, h.isOpen, h.rate⟩, ⟨.delivered _ h.history, h.isOpen, h.rate⟩⟩

end

end Adapter

end MeterBus
