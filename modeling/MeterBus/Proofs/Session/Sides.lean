import Mathlib.Data.List.Forall2
import Mathlib.Logic.Pairwise
import MeterBus.Proofs.Session.SoleUser

/-! # Traffic on separate adapters does not interfere

A side is an adapter with the names that are used on it. What a step of a side does and answers
depends on that side alone, and it leaves every other side as it is. So in a session in which
several sides take turns, in whatever order, each of them sees what it would see if it were alone,
and ends in the same state.

* `Side`, `Side.Apart`, `Step.On`: who may do what.
* `Side.Agree`: two sessions that a side cannot tell apart.
* `Session.Seen`, `Session.trace`, `Session.traces`: what a side sees, alone and among others.
* `Answer.Shows`, `run_shows`: what is seen and what the session answers.
* `traffic_apart`: the two are the same for every side, in whatever order the turns fall.
-/
namespace MeterBus
set_option autoImplicit false

namespace Session

/-! ## Sides -/

/-- An adapter and the names of the stations and bare lines on it. -/
structure Side where
  adapter : Nat
  owns : String → Prop

def Step.On (side : Side) : Step → Prop
  | .cue adapter _ => adapter = side.adapter
  | .connect adapter name _ _ | .openLine adapter name _ _ =>
    adapter = side.adapter ∧ side.owns name
  | .request name _ | .drop name | .line name _ | .closeLine name => side.owns name

namespace Side

structure Apart (side other : Side) : Prop where
  adapter : side.adapter ≠ other.adapter
  names : ∀ name, other.owns name → ¬ side.owns name

/-! ## Bindings -/

/-- The names of the side are bound alike, and to its adapter. -/
structure Share {α : Type} (side : Side) (bound bound' : List (String × OnAdapter α)) : Prop where
  same : ∀ name, side.owns name → bound.lookup name = bound'.lookup name
  here : ∀ name held, side.owns name → bound.lookup name = some held →
    held.adapter = side.adapter

section Share

variable {α : Type} {side : Side} {bound bound' bound'' : List (String × OnAdapter α)}
  (h : side.Share bound bound')
include h

theorem Share.symm : side.Share bound' bound where
  same name owned := (h.same name owned).symm
  here name held owned found := h.here name held owned ((h.same name owned).trans found)

theorem Share.trans (h' : side.Share bound' bound'') : side.Share bound bound'' where
  same name owned := (h.same name owned).trans (h'.same name owned)
  here := h.here

theorem Share.cons (name : String) (value : α) :
    side.Share ((name, ⟨side.adapter, value⟩) :: bound)
      ((name, ⟨side.adapter, value⟩) :: bound') where
  same other owned := by rw [lookup_cons, lookup_cons, h.same other owned]
  here other held owned found := by
    rw [lookup_cons] at found
    split at found
    · rw [← Option.some.inj found]
    · exact h.here other held owned found

theorem Share.without (name : String) :
    side.Share (without name bound) (without name bound') where
  same other owned := by rw [lookup_without, lookup_without, h.same other owned]
  here other held owned found := by
    rw [lookup_without] at found
    split at found
    · exact nomatch found
    · exact h.here other held owned found

variable {name : String} (foreign : ¬ side.owns name)
include foreign

theorem Share.cons_foreign (held : OnAdapter α) : side.Share ((name, held) :: bound) bound' := by
  have skip (other : String) (owned : side.owns other) :
      ((name, held) :: bound).lookup other = bound.lookup other := by
    rw [lookup_cons, if_neg]
    rintro rfl
    exact foreign owned
  exact ⟨fun other owned => (skip other owned).trans (h.same other owned),
    fun other held owned found => h.here other held owned ((skip other owned).symm.trans found)⟩

theorem Share.without_foreign : side.Share (Session.without name bound) bound' := by
  have skip (other : String) (owned : side.owns other) :
      (Session.without name bound).lookup other = bound.lookup other := by
    rw [lookup_without, if_neg]
    rintro rfl
    exact foreign owned
  exact ⟨fun other owned => (skip other owned).trans (h.same other owned),
    fun other held owned found => h.here other held owned ((skip other owned).symm.trans found)⟩

end Share

/-! ## Sessions that a side cannot tell apart -/

/-- The sessions are the same to the side, and its names stand for what is on its adapter. -/
structure Agree (side : Side) (session session' : Session) : Prop where
  adapter : session.adapters[side.adapter]? = session'.adapters[side.adapter]?
  stations : side.Share session.stations session'.stations
  lines : side.Share session.lines session'.lines

theorem agree_fresh (side : Side) (adapters : Nat) : side.Agree (fresh adapters) (fresh adapters) :=
  ⟨rfl, ⟨fun _ _ => rfl, nofun⟩, ⟨fun _ _ => rfl, nofun⟩⟩

section Agree

variable {side : Side} {session session' session'' : Session} (h : side.Agree session session')
include h

theorem Agree.symm : side.Agree session' session :=
  ⟨h.adapter.symm, h.stations.symm, h.lines.symm⟩

theorem Agree.trans (h' : side.Agree session' session'') : side.Agree session session'' :=
  ⟨h.adapter.trans h'.adapter, h.stations.trans h'.stations, h.lines.trans h'.lines⟩

theorem Agree.adapter_eq : session.adapter side.adapter = session'.adapter side.adapter := by
  rw [Session.adapter, Session.adapter, List.getD_eq_getElem?_getD, h.adapter,
    ← List.getD_eq_getElem?_getD]

/-! ## Steps of the side -/

theorem Agree.setAdapter (adapter : Adapter) :
    side.Agree (session.setAdapter side.adapter adapter)
      (session'.setAdapter side.adapter adapter) where
  adapter := by
    simp only [Session.setAdapter, List.getElem?_set_self', h.adapter]
  stations := h.stations
  lines := h.lines

theorem Agree.dropStation {name : String} (owned : side.owns name) :
    side.Agree (session.dropStation name) (session'.dropStation name) := by
  simp only [Session.dropStation, ← h.stations.same name owned]
  cases found : session.stations.lookup name with
  | none => exact h
  | some held =>
    simp only [h.stations.here name held owned found, h.adapter_eq]
    have set := h.setAdapter (held.value.drop (session'.adapter side.adapter))
    exact ⟨set.adapter, h.stations.without name, h.lines⟩

theorem Agree.dropLine {name : String} (owned : side.owns name) :
    side.Agree (session.dropLine name) (session'.dropLine name) := by
  simp only [Session.dropLine, ← h.lines.same name owned]
  cases found : session.lines.lookup name with
  | none => exact h
  | some held =>
    simp only [h.lines.here name held owned found, h.adapter_eq]
    have set := h.setAdapter (session'.adapter side.adapter).close
    exact ⟨set.adapter, h.stations, h.lines.without name⟩

end Agree

structure Alike (side : Side) (effect effect' : Effect) : Prop where
  session : side.Agree effect.session effect'.session
  result : effect.result = effect'.result
  notes : effect.notes = effect'.notes
  station : effect.station = effect'.station

/-- **What a step of a side does depends on that side alone.** -/
theorem Agree.effect {side : Side} {session session' : Session} (h : side.Agree session session')
    {step : Step} (on : step.On side) :
    side.Alike (session.effect step) (session'.effect step) := by
  cases step with
  | cue index cue =>
    obtain rfl := on
    simp only [Session.effect, h.adapter_eq]
    exact ⟨h.setAdapter _, rfl, rfl, rfl⟩
  | connect index name device hooks =>
    obtain ⟨rfl, owned⟩ := on
    have dropped := h.dropStation owned
    simp only [Session.effect, dropped.adapter_eq]
    generalize Station.connect device hooks
      ((session'.dropStation name).adapter side.adapter) = made
    have set := dropped.setAdapter made.adapter
    cases made.result with
    | error fault => exact ⟨set, rfl, rfl, rfl⟩
    | ok done => exact ⟨⟨set.adapter, set.stations.cons name _, set.lines⟩, rfl, rfl, rfl⟩
  | request name request =>
    simp only [Session.effect, ← h.stations.same name on]
    cases found : session.stations.lookup name with
    | none => exact ⟨h, rfl, rfl, rfl⟩
    | some held =>
      simp only [h.stations.here name held on found, h.adapter_eq]
      generalize ask held.value (session'.adapter side.adapter) request = made
      have set := h.setAdapter made.adapter
      have stations := (h.stations.without name).cons name made.station
      exact ⟨⟨set.adapter, stations, h.lines⟩, rfl, rfl, rfl⟩
  | drop name =>
    simp only [Session.effect, ← h.stations.same name on]
    cases session.stations.lookup name with
    | none => exact ⟨h, rfl, rfl, rfl⟩
    | some held => exact ⟨h.dropStation on, rfl, rfl, rfl⟩
  | openLine index name path rate =>
    obtain ⟨rfl, owned⟩ := on
    have dropped := h.dropLine owned
    simp only [Session.effect, dropped.adapter_eq]
    generalize ((session'.dropLine name).adapter side.adapter).openAt path rate = answer
    obtain ⟨result, adapter⟩ := answer
    have set := dropped.setAdapter adapter
    cases result with
    | error fault => exact ⟨set, rfl, rfl, rfl⟩
    | ok done => exact ⟨⟨set.adapter, set.stations, set.lines.cons name ()⟩, rfl, rfl, rfl⟩
  | line name request =>
    simp only [Session.effect, ← h.lines.same name on]
    cases found : session.lines.lookup name with
    | none => exact ⟨h, rfl, rfl, rfl⟩
    | some held =>
      simp only [h.lines.here name held on found, h.adapter_eq]
      exact ⟨h.setAdapter _, rfl, rfl, rfl⟩
  | closeLine name =>
    simp only [Session.effect, ← h.lines.same name on]
    cases session.lines.lookup name with
    | none => exact ⟨h, rfl, rfl, rfl⟩
    | some held => exact ⟨h.dropLine on, rfl, rfl, rfl⟩

/-! ## Steps of another side -/

section Foreign

variable {side other : Side} (apart : side.Apart other) {session session' : Session}
  (h : side.Agree session session')
include apart h

theorem Apart.setAdapter (adapter : Adapter) :
    side.Agree (session.setAdapter other.adapter adapter) session' where
  adapter := by
    rw [Session.setAdapter, List.getElem?_set_ne apart.adapter.symm]
    exact h.adapter
  stations := h.stations
  lines := h.lines

variable (bound : other.Agree session session)
include bound

theorem Apart.dropStation {name : String} (owned : other.owns name) :
    side.Agree (session.dropStation name) session' := by
  unfold Session.dropStation
  cases found : session.stations.lookup name with
  | none => exact h
  | some held =>
    simp only [bound.stations.here name held owned found]
    have set := apart.setAdapter h (held.value.drop (session.adapter other.adapter))
    exact ⟨set.adapter, h.stations.without_foreign (apart.names name owned), h.lines⟩

theorem Apart.dropLine {name : String} (owned : other.owns name) :
    side.Agree (session.dropLine name) session' := by
  unfold Session.dropLine
  cases found : session.lines.lookup name with
  | none => exact h
  | some held =>
    simp only [bound.lines.here name held owned found]
    have set := apart.setAdapter h (session.adapter other.adapter).close
    exact ⟨set.adapter, h.stations, h.lines.without_foreign (apart.names name owned)⟩

/-- **A step of another side changes nothing on this one.** -/
theorem Apart.effect {step : Step} (on : step.On other) :
    side.Agree (session.effect step).session session' := by
  cases step with
  | cue index cue =>
    obtain rfl := on
    exact apart.setAdapter h _
  | connect index name device hooks =>
    obtain ⟨rfl, owned⟩ := on
    have dropped := apart.dropStation h bound owned
    simp only [Session.effect]
    generalize Station.connect device hooks
      ((session.dropStation name).adapter other.adapter) = made
    have set := apart.setAdapter dropped made.adapter
    have stations := set.stations.cons_foreign (apart.names name owned)
    cases made.result with
    | error fault => exact set
    | ok done => exact ⟨set.adapter, stations _, set.lines⟩
  | request name request =>
    simp only [Session.effect]
    cases found : session.stations.lookup name with
    | none => exact h
    | some held =>
      simp only [bound.stations.here name held on found]
      have foreign := apart.names name on
      have stations := (h.stations.without_foreign foreign).cons_foreign foreign
      exact ⟨(apart.setAdapter h _).adapter, stations _, h.lines⟩
  | drop name =>
    simp only [Session.effect]
    cases session.stations.lookup name with
    | none => exact h
    | some held => exact apart.dropStation h bound on
  | openLine index name path rate =>
    obtain ⟨rfl, owned⟩ := on
    have dropped := apart.dropLine h bound owned
    simp only [Session.effect]
    generalize ((session.dropLine name).adapter other.adapter).openAt path rate = answer
    obtain ⟨result, adapter⟩ := answer
    have set := apart.setAdapter dropped adapter
    have lines := set.lines.cons_foreign (apart.names name owned)
    cases result with
    | error fault => exact set
    | ok done => exact ⟨set.adapter, set.stations, lines _⟩
  | line name request =>
    simp only [Session.effect]
    cases found : session.lines.lookup name with
    | none => exact h
    | some held =>
      simp only [bound.lines.here name held on found]
      exact apart.setAdapter h _
  | closeLine name =>
    simp only [Session.effect]
    cases session.lines.lookup name with
    | none => exact h
    | some held => exact apart.dropLine h bound on

end Foreign

end Side

/-! ## What a side sees -/

/-- What a side sees of a step of its own. -/
structure Seen where
  result : Except Failure Reply
  notes : List Note
  station : Option Station
  events : List Adapter.Event
  reads : List Nat
  /-- The adapter afterwards, with what is still to come and what was sent. -/
  adapter : Adapter

def seen (session : Session) (index : Nat) (step : Step) : Seen :=
  let before := session.adapter index
  let (answer, next) := session.perform step
  let after := next.adapter index
  { result := answer.result, notes := answer.notes, station := answer.station,
    events := since before.past after.past, reads := since before.pastReads after.pastReads,
    adapter := after }

/-- The answer to a step as far as it is seen. -/
def Seen.answer (seen : Seen) : Answer where
  result := seen.result
  events := seen.events
  reads := seen.reads
  notes := seen.notes
  adapterOpen := seen.adapter.isOpen
  adapterRate := seen.adapter.rate
  station := seen.station

/-- The answer is the one that is seen. If nobody bears the name, it says so and is about no adapter
of a side. -/
def Answer.Shows (answer : Answer) (seen : Seen) : Prop :=
  answer = seen.answer ∨
    answer.result = seen.result ∧ seen.result ∈ [.error .noStation, .error .noLine]

theorem answer_eq_seen {session : Session} {index : Nat} {step : Step}
    (about : session.adapterOf step = index) :
    (session.perform step).1 = (session.seen index step).answer := by
  subst about
  rfl

theorem Side.Agree.about {side : Side} {session : Session} (h : side.Agree session session)
    {step : Step} (on : step.On side) :
    session.adapterOf step = side.adapter ∨
      (session.effect step).result ∈ [.error .noStation, .error .noLine] := by
  cases step with
  | cue => exact Or.inl on
  | connect | openLine => exact Or.inl on.1
  | request name | drop name =>
    cases found : session.stations.lookup name with
    | none => simp only [Session.effect, found, List.mem_cons, true_or, or_true]
    | some held =>
      have bound := h.stations.here name held on found
      simp only [adapterOf, found, Option.elim_some, bound, true_or]
  | line name | closeLine name =>
    cases found : session.lines.lookup name with
    | none => simp only [Session.effect, found, List.mem_cons, true_or, or_true]
    | some held =>
      have bound := h.lines.here name held on found
      simp only [adapterOf, found, Option.elim_some, bound, true_or]

theorem Side.Agree.shows {side : Side} {session : Session} (h : side.Agree session session)
    {step : Step} (on : step.On side) :
    (session.perform step).1.Shows (session.seen side.adapter step) := by
  rcases h.about on with about | unknown
  · exact Or.inl (answer_eq_seen about)
  · exact Or.inr ⟨rfl, unknown⟩

/-- What the side of an adapter sees of steps that are all its own. -/
def trace (session : Session) (index : Nat) : List Step → List Seen
  | [] => []
  | step :: steps => session.seen index step :: (session.perform step).2.trace index steps

theorem Side.Agree.seen {side : Side} {session session' : Session}
    (h : side.Agree session session') {step : Step} (on : step.On side) :
    session.seen side.adapter step = session'.seen side.adapter step := by
  have alike := h.effect on
  simp only [Session.seen, perform, alike.result, alike.notes, alike.station, h.adapter_eq,
    alike.session.adapter_eq]

/-! ## Taking turns -/

section Turns

variable {ι : Type}

/-- What is seen of each step by the side whose turn it is. -/
def traces (sides : ι → Side) (session : Session) : List (ι × Step) → List (ι × Seen)
  | [] => []
  | (side, step) :: turns =>
    (side, session.seen (sides side).adapter step) ::
      (session.perform step).2.traces sides turns

def after (session : Session) (turns : List (ι × Step)) : Session :=
  (session.run (turns.map Prod.snd)).2

variable [DecidableEq ι]

/-- What belongs to one side, in order. -/
def own {α : Type} (side : ι) (turns : List (ι × α)) : List α :=
  turns.filterMap fun turn => if turn.1 = side then some turn.2 else none

section Own

variable {α : Type} {side other : ι} {turns : List (ι × α)}

theorem own_cons_self (value : α) :
    own side ((side, value) :: turns) = value :: own side turns :=
  List.filterMap_cons_some (if_pos rfl)

theorem own_cons_ne (differs : other ≠ side) (value : α) :
    own side ((other, value) :: turns) = own side turns :=
  List.filterMap_cons_none (if_neg differs)

theorem mem_own {value : α} : value ∈ own side turns ↔ (side, value) ∈ turns := by
  rw [own, List.mem_filterMap]
  constructor
  · rintro ⟨⟨other, _⟩, member, taken⟩
    obtain ⟨rfl, rfl⟩ := Option.ite_some_none_eq_some.mp taken
    exact member
  · intro member
    exact ⟨_, member, if_pos rfl⟩

end Own

variable {sides : ι → Side} (apart : Pairwise fun side other => (sides side).Apart (sides other))
  {start : Session}
include apart

theorem bound_effect (bound : ∀ side, (sides side).Agree start start) {side : ι} {step : Step}
    (on : step.On (sides side)) (other : ι) :
    (sides other).Agree (start.effect step).session (start.effect step).session := by
  by_cases same : other = side
  · subst same
    exact ((bound other).effect on).session
  · have after := (apart same).effect (bound other) (bound side) on
    exact (apart same).effect after.symm (bound side) on

theorem trace_own (bound : ∀ side, (sides side).Agree start start) {turns : List (ι × Step)}
    (on : ∀ turn ∈ turns, turn.2.On (sides turn.1)) (side : ι) {alone : Session}
    (h : (sides side).Agree start alone) :
    own side (start.traces sides turns) = alone.trace (sides side).adapter (own side turns) ∧
      (sides side).Agree (start.after turns) (alone.run (own side turns)).2 := by
  -- The two sessions go on together on turns of the side; on others only the shared one does.
  induction turns generalizing start alone with
  | nil => exact ⟨rfl, h⟩
  | cons turn turns ih =>
    obtain ⟨other, step⟩ := turn
    have here : step.On (sides other) := on (other, step) List.mem_cons_self
    have later := fun turn member => on turn (List.mem_cons_of_mem (other, step) member)
    have bound' := bound_effect apart bound here
    by_cases same : other = side
    · subst same
      obtain ⟨seen, state⟩ := ih bound' later (h.effect here).session
      rw [traces, own_cons_self, own_cons_self, trace, h.seen here]
      exact ⟨congrArg _ seen, state⟩
    · have unmoved := (apart (Ne.symm same)).effect h (bound other) here
      rw [traces, own_cons_ne same, own_cons_ne same]
      exact ih bound' later unmoved

/-- The answers of a run are what the sides see of their turns. -/
theorem run_shows (bound : ∀ side, (sides side).Agree start start) {turns : List (ι × Step)}
    (on : ∀ turn ∈ turns, turn.2.On (sides turn.1)) :
    List.Forall₂ Answer.Shows (start.run (turns.map Prod.snd)).1
      ((start.traces sides turns).map Prod.snd) := by
  induction turns generalizing start with
  | nil => exact .nil
  | cons turn turns ih =>
    obtain ⟨side, step⟩ := turn
    have here : step.On (sides side) := on (side, step) List.mem_cons_self
    have later := fun turn member => on turn (List.mem_cons_of_mem (side, step) member)
    exact .cons ((bound side).shows here) (ih (bound_effect apart bound here) later)

/-- **Traffic on separate adapters does not interfere.** In a session in which each side uses its
own adapter and its own names, every side sees of its steps what it sees if they are all there is,
and its part of the last state is the same. So it does not matter how the turns fall. What the sides
see is what the session answers. -/
theorem traffic_apart (bound : ∀ side, (sides side).Agree start start) {turns : List (ι × Step)}
    (on : ∀ turn ∈ turns, turn.2.On (sides turn.1)) :
    (∀ side, own side (start.traces sides turns) =
        start.trace (sides side).adapter (own side turns) ∧
      (sides side).Agree (start.after turns) (start.run (own side turns)).2) ∧
      (∀ turns' : List (ι × Step), (∀ side, own side turns' = own side turns) →
        ∀ side, own side (start.traces sides turns') = own side (start.traces sides turns) ∧
          (sides side).Agree (start.after turns') (start.after turns)) ∧
      List.Forall₂ Answer.Shows (start.run (turns.map Prod.snd)).1
        ((start.traces sides turns).map Prod.snd) := by
  have alone := fun side => trace_own apart bound on side (bound side)
  refine ⟨alone, fun turns' same side => ?_, run_shows apart bound on⟩
  have on' : ∀ turn ∈ turns', turn.2.On (sides turn.1) := by
    intro turn member
    exact on turn (mem_own.mp (same turn.1 ▸ mem_own.mpr member))
  obtain ⟨seen, state⟩ := trace_own apart bound on' side (bound side)
  rw [same side] at seen state
  exact ⟨seen.trans (alone side).1.symm, state.trans (alone side).2.symm⟩

end Turns

/-- A probe on one adapter and an exchange on another, step by step and one after the other. -/
theorem traffic_apart_probe :
    let sides : Bool → Side := fun first => if first then ⟨0, (· = "left")⟩ else ⟨1, (· = "right")⟩
    let left : List Step := [.connect 0 "left" "/dev/ttyUSB0" (Hooks.recording "left"),
      .cue 0 (.silence 3), .cue 0 (.frame Frame.ack), .request "left" (.probe {} 5)]
    let right : List Step := [.connect 1 "right" "/dev/ttyUSB1" Hooks.hexDump,
      .cue 1 (.frame Frame.ack), .request "right" (.exchange (Frame.linkReset 5)), .drop "right"]
    let turns := (left.zip right).flatMap fun (step, step') => [(true, step), (false, step')]
    let turns' := right.map (Prod.mk false) ++ left.map (Prod.mk true)
    (Pairwise fun side other => (sides side).Apart (sides other)) ∧
      (∀ side, (sides side).Agree (fresh 2) (fresh 2)) ∧
      (∀ turn ∈ turns, turn.2.On (sides turn.1)) ∧
      own true ((fresh 2).traces sides turns) = (fresh 2).trace 0 left ∧
      own false ((fresh 2).traces sides turns) = (fresh 2).trace 1 right ∧
      (∀ side, (sides side).Agree ((fresh 2).after turns') ((fresh 2).after turns)) ∧
      List.Forall₂ Answer.Shows ((fresh 2).run (turns.map Prod.snd)).1
        (((fresh 2).traces sides turns).map Prod.snd) := by
  intro sides left right turns turns'
  have apart : Pairwise fun side other => (sides side).Apart (sides other) := by
    intro side other differs
    cases side <;> cases other <;> first | exact absurd rfl differs | constructor <;> simp [sides]
  have bound := fun side => (sides side).agree_fresh 2
  have on : ∀ turn ∈ turns, turn.2.On (sides turn.1) := by
    simp [turns, left, right, sides, Step.On]
  have same : ∀ side, own side turns' = own side turns := by
    intro side
    cases side <;> rfl
  obtain ⟨alone, orders, shown⟩ := traffic_apart apart bound on
  exact ⟨apart, bound, on, (alone true).1, (alone false).1,
    fun side => (orders turns' same side).2, shown⟩

end Session

end MeterBus
