import MeterBus.Proofs.Session.Connection
import MeterBus.Proofs.Station.Changes

/-! # A station that could not open its device again

Once opening the device again has failed, a station stays without a line until it succeeds, whatever
happens in the session in between. All that time it refuses what needs a line, and nothing it is
asked shows on its adapter.

* `Closed`: a station without a line.
* `Closed.run`: it stays so.
* `changes_whole`: changes of rate and openings, and what follows a failed one.
-/
namespace MeterBus
set_option autoImplicit false

namespace Session

/-! ## Bindings -/

theorem lookup_dropStation_ne (session : Session) {name other : String} (differs : other ≠ name) :
    (session.dropStation other).stations.lookup name = session.stations.lookup name := by
  unfold dropStation
  cases session.stations.lookup other with
  | none => rfl
  | some held => exact (lookup_without other name _).trans (if_neg (Ne.symm differs))

theorem stations_dropLine (session : Session) (name : String) :
    (session.dropLine name).stations = session.stations := by
  unfold dropLine
  cases session.lines.lookup name <;> rfl

theorem setAdapter_adapter (session : Session) (index : Nat) :
    session.setAdapter index (session.adapter index) = session := by
  rcases Nat.lt_or_ge index session.adapters.length with inside | outside
  · simp [setAdapter, Session.adapter, inside]
  · simp [setAdapter, List.set_eq_of_length_le outside]

/-- The step neither lets go of the station of that name nor puts another in its place. -/
def Step.Spares (name : String) : Step → Prop
  | .connect _ other _ _ | .drop other => other ≠ name
  | _ => True

/-- Only a request to it changes a station. -/
theorem lookup_effect (session : Session) {name : String} {step : Step} (spares : step.Spares name)
    (unasked : ∀ request, step ≠ .request name request) :
    (session.effect step).session.stations.lookup name = session.stations.lookup name := by
  cases step with
  | cue => rfl
  | connect index other device hooks =>
    have dropped := lookup_dropStation_ne session spares
    simp only [effect]
    generalize Station.connect device hooks ((session.dropStation other).adapter index) = made
    cases made.result with
    | error fault => exact dropped
    | ok done => exact (lookup_cons other name _ _).trans ((if_neg (Ne.symm spares)).trans dropped)
  | request other request =>
    have differs : name ≠ other := by
      rintro rfl
      exact unasked request rfl
    simp only [effect]
    cases session.stations.lookup other with
    | none => rfl
    | some held =>
      simp only [lookup_cons, lookup_without, if_neg differs]
  | drop other =>
    simp only [effect]
    cases session.stations.lookup other with
    | none => rfl
    | some held => exact lookup_dropStation_ne session spares
  | openLine index other path rate =>
    have kept := congrArg (List.lookup name) (stations_dropLine session other)
    simp only [effect]
    generalize ((session.dropLine other).adapter index).openAt path rate = answer
    obtain ⟨result, adapter⟩ := answer
    cases result <;> exact kept
  | line other request =>
    simp only [effect]
    cases session.lines.lookup other <;> rfl
  | closeLine other =>
    simp only [effect]
    cases session.lines.lookup other with
    | none => rfl
    | some held => exact congrArg (List.lookup name) (stations_dropLine session other)

/-! ## Staying without a line -/

/-- The station of that name is there and has no line. -/
def Closed (name : String) (session : Session) : Prop :=
  ∃ held, session.stations.lookup name = some held ∧ held.value.connected = false

/-- In no step of the run does that station succeed in opening its device again. -/
def NeverReopens (name : String) (session : Session) (steps : List Step) : Prop :=
  ∀ entry ∈ steps.zip (session.run steps).1,
    entry.1 = .request name .reconnect → entry.2.result ≠ .ok .done

section Bound

variable {session : Session} {name : String} {held : OnAdapter Station}
  (bound : session.stations.lookup name = some held)
include bound

theorem effect_request (request : Station.Request) :
    session.effect (.request name request) =
      { session := { session.setAdapter held.adapter
            (ask held.value (session.adapter held.adapter) request).adapter with
          stations := (name,
            ⟨held.adapter, (ask held.value (session.adapter held.adapter) request).station⟩) ::
            without name session.stations },
        result := (ask held.value (session.adapter held.adapter) request).result.mapError .fault,
        notes := (ask held.value (session.adapter held.adapter) request).notes,
        station := some (ask held.value (session.adapter held.adapter) request).station } := by
  simp only [effect, bound]

theorem lookup_request (request : Station.Request) :
    (session.effect (.request name request)).session.stations.lookup name =
      some ⟨held.adapter, (ask held.value (session.adapter held.adapter) request).station⟩ := by
  rw [effect_request bound]
  exact (lookup_cons name name _ _).trans (if_pos rfl)

/-- A failed opening leaves the station without a line. -/
theorem closed_of_failed
    (failed : (session.perform (.request name .reconnect)).1.result ≠ .ok .done) :
    Closed name (session.perform (.request name .reconnect)).2 := by
  refine ⟨_, lookup_request bound .reconnect, ?_⟩
  have reopening := held.value.reopening (session.adapter held.adapter)
  have result : (session.perform (.request name .reconnect)).1.result = _ :=
    congrArg Effect.result (effect_request bound .reconnect)
  rw [result] at failed
  simp only [ask, reply] at failed ⊢
  cases opened : (held.value.reconnect (session.adapter held.adapter)).result with
  | error fault => rw [(reopening.failed fault opened).2.1]
  | ok done =>
    rw [opened] at failed
    exact absurd rfl failed

end Bound

section

variable {name : String} {session : Session} (h : Closed name session)
include h

theorem Closed.perform {step : Step} (spares : step.Spares name)
    (failed : step = .request name .reconnect → (session.perform step).1.result ≠ .ok .done) :
    Closed name (session.perform step).2 := by
  by_cases asked : ∃ request, step = .request name request
  · obtain ⟨request, rfl⟩ := asked
    obtain ⟨held, bound, closed⟩ := h
    by_cases again : request = .reconnect
    · subst again
      exact closed_of_failed bound (failed rfl)
    · refine ⟨_, lookup_request bound request, ?_⟩
      rw [(Station.ask_closed closed _ again).1]
      exact closed
  · obtain ⟨held, bound, closed⟩ := h
    refine ⟨held, ?_, closed⟩
    rw [← bound]
    exact lookup_effect session spares fun request same => asked ⟨request, same⟩

theorem Closed.run {steps : List Step} (spares : ∀ step ∈ steps, step.Spares name)
    (never : NeverReopens name session steps) : Closed name (session.run steps).2 := by
  induction steps generalizing session with
  | nil => exact h
  | cons step steps ih =>
    have first := h.perform (spares step List.mem_cons_self) (never (_, _) List.mem_cons_self)
    refine ih first (fun later member => spares later (List.mem_cons_of_mem step member)) ?_
    intro entry member
    exact never entry (List.mem_cons_of_mem _ member)

/-- A station without a line refuses what needs one, and nothing of it shows on the adapters. -/
theorem Closed.refuses {request : Station.Request} (needs : request.NeedsLine) :
    (session.perform (.request name request)).1.result = .error (.fault .notConnected) ∧
      (session.perform (.request name request)).1.events = [] ∧
      (session.perform (.request name request)).2.adapters = session.adapters := by
  obtain ⟨held, bound, closed⟩ := h
  have other : request ≠ .reconnect := by
    rintro rfl
    cases needs
  have effect := effect_request bound request
  rw [(Station.ask_closed closed _ other).2, setAdapter_adapter,
    Station.ask_needsLine closed _ needs] at effect
  have adapters : (session.effect (.request name request)).session.adapters = session.adapters := by
    rw [effect]
  refine ⟨?_, ?_, adapters⟩
  · exact congrArg Effect.result effect
  · simp only [Session.perform, Session.adapter, adapters, since, Nat.sub_self, List.take_zero,
      List.reverse_nil]

end

/-! ## Altogether -/

theorem bound_of_user {session : Session} {index : Nat} {name : String} {station : Station}
    (used : session.user index name = some station) :
    ∃ held, session.stations.lookup name = some held ∧ held.value = station := by
  unfold user occupant at used
  cases bound : session.stations.lookup name with
  | none => simp [bound] at used
  | some held =>
    simp only [bound, Option.bind_some, Option.ite_none_right_eq_some, Option.some.injEq] at used
    exact ⟨held, rfl, used.2⟩

/-- An adapter that only one station uses is closed once opening the device again has failed,
whether or not the station had a line before. -/
theorem isOpen_of_failed {adapters index : Nat} (room : index < adapters) {name : String}
    {steps : List Step} (sole : ∀ step ∈ steps, step.Sole index name)
    (failed : (((fresh adapters).run steps).2.perform (.request name .reconnect)).1.result ≠
      .ok .done) :
    ((((fresh adapters).run steps).2.perform (.request name .reconnect)).2.adapter index).isOpen =
      false := by
  have lasting := inStep_lasting fun _ => True
  have kept := (kept_fresh lasting room name).run lasting sole fun _ _ _ => trivial
  have after : Kept _ index name (effect _ (.request name .reconnect)).session :=
    kept.effect lasting trivial fun _ _ _ => trivial
  generalize ((fresh adapters).run steps).2 = session at failed after ⊢
  apply Bool.eq_false_iff.mpr
  intro isOpen
  obtain ⟨station, used, connected⟩ := after.law.accounted.isOpen.mp isOpen
  obtain ⟨held, now, rfl⟩ := bound_of_user used
  cases bound : session.stations.lookup name with
  | none => simp only [effect, bound, reduceCtorEq] at now
  | some before =>
    obtain ⟨_, shut, closed⟩ := closed_of_failed bound failed
    obtain rfl := Option.some.inj (now.symm.trans shut)
    cases closed.symm.trans connected

/-- **Changes happen as a whole or not at all, and a failed opening leaves no line.** Whatever the
station and the adapter, another rate is taken on by both or by neither, and opening the device
again gives a line at the initial rate or none. In every reachable state the adapter of a station
that has it to itself is closed by a failed opening, and in every session the station then refuses
all that needs a line, without a trace on its adapter, until an opening succeeds. -/
theorem changes_whole :
    (∀ (station : Station) (adapter : Adapter) (number : Nat),
      station.RateChange adapter number (station.setRate adapter number)) ∧
    (∀ (station : Station) (adapter : Adapter),
      station.Reopening adapter (station.reconnect adapter)) ∧
    (∀ (adapters index : Nat) (name : String) (steps : List Step), index < adapters →
      (∀ step ∈ steps, step.Sole index name) →
      let made := ((fresh adapters).run steps).2.perform (.request name .reconnect)
      made.1.result ≠ .ok .done → (made.2.adapter index).isOpen = false) ∧
    ∀ (session : Session) (name : String) (held : OnAdapter Station),
      session.stations.lookup name = some held →
      let made := session.perform (.request name .reconnect)
      made.1.result ≠ .ok .done →
      ∀ steps : List Step, (∀ step ∈ steps, step.Spares name) → NeverReopens name made.2 steps →
      ∀ request : Station.Request, request.NeedsLine →
      let now := (made.2.run steps).2
      (now.perform (.request name request)).1.result = .error (.fault .notConnected) ∧
        (now.perform (.request name request)).1.events = [] ∧
        (now.perform (.request name request)).2.adapters = now.adapters := by
  refine ⟨?_, ?_, ?_, ?_⟩
  · intro station adapter number
    exact station.rateChange adapter number
  · intro station adapter
    exact station.reopening adapter
  · intro adapters index name steps room sole made failed
    exact isOpen_of_failed room sole failed
  · intro session name held bound made failed steps spares never request needs
    exact ((closed_of_failed bound failed).run spares never).refuses needs

/-- A station whose device is gone: it refuses a supported rate and a frame, also after the adapter
would open again and another station has used it. -/
theorem changes_whole_refused :
    let before : List Step := [.connect 0 "meter" "/dev/ttyUSB0" {}, .cue 0 (.refuseOpen true)]
    let after : List Step := [.request "meter" (.setRate 300), .request "meter" .reconnect,
      .cue 0 (.refuseOpen false), .request "meter" .disconnect,
      .connect 0 "other" "/dev/ttyUSB1" {}, .drop "other"]
    let made := ((fresh 1).run before).2.perform (.request "meter" .reconnect)
    let now := (made.2.run after).2
    (∀ step ∈ before, step.Sole 0 "meter") ∧ (∀ step ∈ after, step.Spares "meter") ∧
      NeverReopens "meter" made.2 after ∧
      made.1.result = .error (.fault (.connect "/dev/ttyUSB0" Adapter.absent)) ∧
      made.1.events = [.closed] ∧ (made.2.adapter 0).isOpen = false ∧
      (now.perform (.request "meter" (.send Frame.ack))).1.result = .error (.fault .notConnected) ∧
      (now.perform (.request "meter" (.send Frame.ack))).1.events = [] := by
  intro before after made now
  have sole : ∀ step ∈ before, step.Sole 0 "meter" := by
    simp [before, Step.Sole]
  have spares : ∀ step ∈ after, step.Spares "meter" := by
    simp [after, Step.Spares]
  have never : NeverReopens "meter" made.2 after := by
    intro entry member again
    change entry ∈ [(_, _), (_, _), (_, _), (_, _), (_, _), (_, _)] at member
    simp only [List.mem_cons, List.not_mem_nil, or_false] at member
    rcases member with rfl | rfl | rfl | rfl | rfl | rfl <;> cases again
    intro done
    cases done
  have result : made.1.result = .error (.fault (.connect "/dev/ttyUSB0" Adapter.absent)) := rfl
  have failed : made.1.result ≠ .ok .done := by
    rw [result]
    simp
  have whole := changes_whole.2.2
  have refused := whole.2 ((fresh 1).run before).2 "meter" _ rfl failed after spares never
    (.send Frame.ack) (.send rfl)
  exact ⟨sole, spares, never, result, rfl, whole.1 1 0 "meter" before (by decide) sole failed,
    refused.1, refused.2.1⟩

end Session

end MeterBus
