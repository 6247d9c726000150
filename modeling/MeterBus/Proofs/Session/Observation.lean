import MeterBus.Proofs.Session.SoleUser
import MeterBus.Proofs.Station.Unobserved

/-! # Observation never changes behaviour

Two sessions that differ in their observers and in the threshold of their log do the same, step by
step: results, events, read sizes, stations and adapters. And a threshold takes lines from the log
but neither adds nor moves any: what is left can be told by the severity that a line begins with.

* `Step.unobserved`, `Session.unobserved`, `Answer.unobserved`: what is not observation.
* `Log.severity?`: the severity that a line begins with.
* `Session.Observed`, `Session.observe`: a run with its log and the states in between.
-/
namespace MeterBus
set_option autoImplicit false

/-! ## Log lines -/

namespace Log

def Severity.all : List Severity := [.error, .warn, .info, .debug, .trace]

/-- The severity that a line begins with. -/
def severity? (line : String) : Option Severity :=
  Severity.all.find? fun severity => (severity.name ++ " ").toList.isPrefixOf line.toList

theorem severity?_line (entry : Entry) : severity? entry.line = some entry.severity := by
  obtain ⟨severity, text⟩ := entry
  simp only [severity?, Entry.line, String.toList_append]
  cases severity <;> rfl

def Threshold.sift (threshold : Threshold) (lines : List String) : List String :=
  lines.filter fun line => (severity? line).any (Threshold.admits threshold)

theorem kept_trace (entries : List Entry) : kept (some .trace) entries = entries := by
  rw [kept, List.filter_eq_self]
  intro entry _
  cases entry.severity <;> rfl

/-- What passes a threshold is what the threshold leaves of the whole log. -/
theorem lines_kept (threshold : Threshold) (entries : List Entry) :
    (kept threshold entries).map Entry.line =
      Threshold.sift threshold ((kept (some .trace) entries).map Entry.line) := by
  have read (entry : Entry) : (severity? entry.line).any (Threshold.admits threshold) =
      Threshold.admits threshold entry.severity := by
    rw [severity?_line]
    rfl
  rw [kept_trace, Threshold.sift, List.filter_map, kept]
  simp only [Function.comp_def, read]

end Log

namespace Session

/-! ## Sessions without observers -/

def OnAdapter.unobserved (held : OnAdapter Station) : OnAdapter Station :=
  { held with value := held.value.unobserved }

def unobserved (session : Session) : Session :=
  { session with stations := session.stations.map (Prod.map id OnAdapter.unobserved) }

/-- The step with nobody to look on. -/
def Step.unobserved : Step → Step
  | .connect adapter name device _ => .connect adapter name device {}
  | .line name (.receive decoder _) => .line name (.receive decoder {})
  | step => step

def Answer.unobserved (answer : Answer) : Answer :=
  { answer with notes := [], station := answer.station.map Station.unobserved }

def Effect.unobserved (effect : Effect) : Effect :=
  { session := effect.session.unobserved, result := effect.result,
    station := effect.station.map Station.unobserved }

section

variable {α : Type} (f : α → α) (name : String) (bound : List (String × α))

theorem lookup_map : (bound.map (Prod.map id f)).lookup name = (bound.lookup name).map f := by
  induction bound with
  | nil => rfl
  | cons entry bound ih =>
    obtain ⟨other, value⟩ := entry
    rw [List.map_cons, Prod.map_apply, lookup_cons, lookup_cons, ih]
    by_cases same : name = other <;> simp [same]

theorem without_map :
    without name (bound.map (Prod.map id f)) = (without name bound).map (Prod.map id f) := by
  rw [without, List.filter_map]
  rfl

end

theorem Effect.unobserved_eq {effect effect' : Effect}
    (session : effect.session.unobserved = effect'.session.unobserved)
    (result : effect.result = effect'.result)
    (station : effect.station.map Station.unobserved = effect'.station.map Station.unobserved) :
    effect.unobserved = effect'.unobserved := by
  simp only [Effect.unobserved, session, result, station]

section Congruence

variable {session session' : Session} (h : session.unobserved = session'.unobserved)
include h

theorem unobserved_setAdapter (index : Nat) (adapter : Adapter) :
    (session.setAdapter index adapter).unobserved =
      (session'.setAdapter index adapter).unobserved := by
  obtain ⟨adapters, stations, lines⟩ := Session.mk.inj h
  simp only [unobserved, setAdapter, adapters, stations, lines]

theorem unobserved_bind (name : String) (index : Nat) {station station' : Station}
    (same : station.unobserved = station'.unobserved) :
    ({ session with
        stations := (name, ⟨index, station⟩) :: session.stations } : Session).unobserved =
      ({ session' with
        stations := (name, ⟨index, station'⟩) :: session'.stations } : Session).unobserved := by
  obtain ⟨adapters, stations, lines⟩ := Session.mk.inj h
  simp only [unobserved, List.map_cons, Prod.map_apply, OnAdapter.unobserved, same, adapters, lines]
  rw [stations]

theorem unobserved_without (name : String) :
    ({ session with stations := without name session.stations }).unobserved =
      ({ session' with stations := without name session'.stations }).unobserved := by
  obtain ⟨adapters, stations, lines⟩ := Session.mk.inj h
  simp only [unobserved, ← without_map, adapters, stations, lines]

theorem unobserved_lines (lines : List (String × OnAdapter Unit)) :
    ({ session with lines }).unobserved = ({ session' with lines }).unobserved := by
  obtain ⟨adapters, stations, _⟩ := Session.mk.inj h
  simp only [unobserved, adapters, stations]

end Congruence

section Steps

variable (session : Session)

theorem lookup_unobserved (name : String) : session.unobserved.stations.lookup name =
    (session.stations.lookup name).map OnAdapter.unobserved :=
  lookup_map OnAdapter.unobserved name session.stations

theorem unobserved_unobserved : session.unobserved.unobserved = session.unobserved := by
  simp only [unobserved, List.map_map]
  rfl

theorem dropStation_unobserved (name : String) :
    session.unobserved.dropStation name = (session.dropStation name).unobserved := by
  unfold dropStation
  rw [lookup_unobserved]
  cases session.stations.lookup name with
  | none => rfl
  | some held =>
    simp only [Option.map_some, unobserved, without_map]
    rfl

theorem dropLine_unobserved (name : String) :
    session.unobserved.dropLine name = (session.dropLine name).unobserved := by
  have same : session.unobserved.lines = session.lines := rfl
  unfold dropLine
  rw [same]
  cases session.lines.lookup name <;> rfl

theorem adapter_unobserved (index : Nat) :
    session.unobserved.adapter index = session.adapter index := rfl

theorem adapterOf_unobserved (step : Step) :
    session.unobserved.adapterOf step.unobserved = session.adapterOf step := by
  cases step with
  | cue | connect | openLine | closeLine => rfl
  | request name request | drop name =>
    simp only [Step.unobserved, adapterOf, lookup_unobserved]
    cases session.stations.lookup name <;> rfl
  | line name request => cases request <;> rfl

theorem effect_line_unobserved (name : String) (request : Adapter.Request) :
    (session.unobserved.effect (Step.line name request).unobserved).unobserved =
      (session.effect (.line name request)).unobserved := by
  have same := session.unobserved_unobserved
  have lines : session.unobserved.lines = session.lines := rfl
  cases found : session.lines.lookup name with
  | none =>
    cases request <;> simp only [Step.unobserved, effect, lines, found] <;>
      exact Effect.unobserved_eq same rfl rfl
  | some held =>
    cases request with
    | receive decoder hooks =>
      obtain ⟨result, after⟩ :=
        Reception.receive_hooks {} hooks decoder (session.adapter held.adapter)
      simp only [Step.unobserved, effect, lines, found, askLine, adapter_unobserved, result, after]
      exact Effect.unobserved_eq (unobserved_setAdapter same _ _) rfl rfl
    | _ =>
      simp only [Step.unobserved, effect, lines, found, adapter_unobserved]
      exact Effect.unobserved_eq (unobserved_setAdapter same _ _) rfl rfl

/-- **Observers have no part in a step.** -/
theorem effect_unobserved (step : Step) :
    (session.unobserved.effect step.unobserved).unobserved = (session.effect step).unobserved := by
  have same := session.unobserved_unobserved
  have lines : session.unobserved.lines = session.lines := rfl
  cases step with
  | cue index cue => exact Effect.unobserved_eq (unobserved_setAdapter same index _) rfl rfl
  | connect index name device hooks =>
    simp only [Step.unobserved, effect, dropStation_unobserved, adapter_unobserved]
    generalize session.dropStation name = dropped
    have inert : (Station.connect device {} (dropped.adapter index)).unobserved =
      (Station.connect device hooks (dropped.adapter index)).unobserved :=
        Station.inert_reconnect { device, hooks } (dropped.adapter index)
    generalize Station.connect device {} (dropped.adapter index) = made at inert ⊢
    generalize Station.connect device hooks (dropped.adapter index) = made' at inert ⊢
    obtain ⟨results, stations, adapters⟩ := Station.parts_of_unobserved inert
    have set := unobserved_setAdapter dropped.unobserved_unobserved index made'.adapter
    rw [results, adapters]
    cases made'.result with
    | error fault => exact Effect.unobserved_eq set rfl rfl
    | ok done => exact Effect.unobserved_eq (unobserved_bind set name index stations) rfl rfl
  | request name request =>
    simp only [Step.unobserved, effect, lookup_unobserved]
    cases session.stations.lookup name with
    | none => exact Effect.unobserved_eq same rfl rfl
    | some held =>
      have inert := Station.inert_ask request held.value (session.adapter held.adapter)
      obtain ⟨results, stations, adapters⟩ := Station.parts_of_unobserved inert
      have set := unobserved_setAdapter same held.adapter
        (ask held.value (session.adapter held.adapter) request).adapter
      have bind := unobserved_bind (unobserved_without set name) name held.adapter stations
      simp only [Option.map_some, OnAdapter.unobserved, adapter_unobserved, adapters]
      exact Effect.unobserved_eq bind (congrArg (Except.mapError Failure.fault) results)
        (congrArg some stations)
  | drop name =>
    simp only [Step.unobserved, effect, lookup_unobserved, dropStation_unobserved]
    cases session.stations.lookup name with
    | none => exact Effect.unobserved_eq same rfl rfl
    | some held => exact Effect.unobserved_eq (unobserved_unobserved _) rfl rfl
  | openLine index name path rate =>
    simp only [Step.unobserved, effect, dropLine_unobserved, adapter_unobserved]
    generalize session.dropLine name = dropped
    generalize (dropped.adapter index).openAt path rate = answer
    obtain ⟨result, adapter⟩ := answer
    have set := unobserved_setAdapter dropped.unobserved_unobserved index adapter
    cases result with
    | error fault => exact Effect.unobserved_eq set rfl rfl
    | ok done => exact Effect.unobserved_eq (unobserved_lines set _) rfl rfl
  | line name request => exact session.effect_line_unobserved name request
  | closeLine name =>
    simp only [Step.unobserved, effect, lines, dropLine_unobserved]
    cases session.lines.lookup name with
    | none => exact Effect.unobserved_eq same rfl rfl
    | some held => exact Effect.unobserved_eq (unobserved_unobserved _) rfl rfl

theorem perform_unobserved (step : Step) :
    (session.unobserved.perform step.unobserved).1.unobserved =
        (session.perform step).1.unobserved ∧
      (session.unobserved.perform step.unobserved).2.unobserved =
        (session.perform step).2.unobserved := by
  obtain ⟨sessions, results, _, stations⟩ := Effect.mk.inj (session.effect_unobserved step)
  have adapters (index : Nat) :
      (session.unobserved.effect step.unobserved).session.adapter index =
        (session.effect step).session.adapter index :=
    congrArg (fun session => session.adapter index) sessions
  refine ⟨?_, sessions⟩
  simp only [perform, Answer.unobserved, adapterOf_unobserved, adapter_unobserved, adapters,
    results, stations]

end Steps

/-! ## Runs -/

/-- What can be observed of a step under a threshold of the log: the answer, the lines, and the
session afterwards. -/
structure Observed where
  answer : Answer
  log : List String
  after : Session

def observe (threshold : Log.Threshold) (session : Session) : List Step → List Observed
  | [] => []
  | step :: steps =>
    let (answer, next) := session.perform step
    { answer, log := answer.log threshold, after := next } :: next.observe threshold steps

theorem observe_answers (threshold : Log.Threshold) (session : Session) (steps : List Step) :
    (session.observe threshold steps).map Observed.answer = (session.run steps).1 := by
  induction steps generalizing session with
  | nil => rfl
  | cons step steps ih => exact congrArg (_ :: ·) (ih (session.perform step).2)

def Observed.deed (observed : Observed) : Answer × Session :=
  (observed.answer.unobserved, observed.after.unobserved)

theorem perform_alike {session session' : Session}
    (alike : session.unobserved = session'.unobserved) {step step' : Step}
    (same : step.unobserved = step'.unobserved) :
    (session.perform step).1.unobserved = (session'.perform step').1.unobserved ∧
      (session.perform step).2.unobserved = (session'.perform step').2.unobserved := by
  have first := session.perform_unobserved step
  have second := session'.perform_unobserved step'
  rw [alike, same] at first
  exact ⟨first.1.symm.trans second.1, first.2.symm.trans second.2⟩

theorem deeds_alike (threshold threshold' : Log.Threshold) {session session' : Session}
    (alike : session.unobserved = session'.unobserved) {steps steps' : List Step}
    (same : steps.map Step.unobserved = steps'.map Step.unobserved) :
    (session.observe threshold steps).map Observed.deed =
      (session'.observe threshold' steps').map Observed.deed := by
  induction steps generalizing session session' steps' with
  | nil =>
    obtain rfl := List.map_eq_nil_iff.mp same.symm
    rfl
  | cons step steps ih =>
    obtain ⟨step', steps', rfl, here, later⟩ := List.map_eq_cons_iff.mp same.symm
    obtain ⟨answers, states⟩ := perform_alike alike here.symm
    have rest := ih states later.symm
    simp only [observe, List.map_cons, Observed.deed, answers, states]
    exact congrArg _ rest

theorem logs_sifted (threshold : Log.Threshold) (session : Session) (steps : List Step) :
    (session.observe threshold steps).map Observed.log =
      (session.observe (some .trace) steps).map fun observed =>
        Log.Threshold.sift threshold observed.log := by
  induction steps generalizing session with
  | nil => rfl
  | cons step steps ih =>
    have here : (session.perform step).1.log threshold =
        Log.Threshold.sift threshold ((session.perform step).1.log (some .trace)) :=
      Log.lines_kept threshold _
    rw [observe, observe, List.map_cons, List.map_cons, ih]
    exact congrArg (· :: _) here

/-- **Observation never changes behaviour.** Sessions and steps that differ in their observers only,
under any thresholds of the log, do the same step by step; the lines at a threshold are those of the
full log that begin with a severity it admits; and the answers observed are those of the run. -/
theorem observation_inert (threshold threshold' : Log.Threshold) {session session' : Session}
    (alike : session.unobserved = session'.unobserved) {steps steps' : List Step}
    (same : steps.map Step.unobserved = steps'.map Step.unobserved) :
    (session.observe threshold steps).map Observed.deed =
        (session'.observe threshold' steps').map Observed.deed ∧
      (session.observe threshold steps).map Observed.log =
        ((session.observe (some .trace) steps).map fun observed =>
          Log.Threshold.sift threshold observed.log) ∧
      (session.observe threshold steps).map Observed.answer = (session.run steps).1 :=
  ⟨deeds_alike threshold threshold' alike same, logs_sifted threshold session steps,
    observe_answers threshold session steps⟩

/-- A station that dumps its frames to the log at `info` and one that keeps them, with the log off,
beside a bare line that is received from. -/
theorem observation_inert_dump :
    let steps (hooks hooks' : Hooks) : List Step := [.connect 0 "meter" "/dev/ttyUSB0" hooks,
      .request "meter" (.send Frame.ack), .openLine 1 "bare" "/dev/ttyUSB1" .baud300,
      .cue 1 (.frame (Frame.linkReset 5)), .line "bare" (.receive Decoder.link hooks'),
      .cue 0 (.silence 3), .request "meter" (.probe {} 5)]
    let dumped := steps Hooks.hexDump {}
    let kept := steps (Hooks.recording "meter") (Hooks.recording "bare")
    dumped.map Step.unobserved = kept.map Step.unobserved ∧
      (((fresh 2).observe (some .info) dumped).take 2).map Observed.log =
        [[], ["INFO SEND (001): E5"]] ∧
      (((fresh 2).observe none kept).take 2).map Observed.log = [[], []] ∧
      ((fresh 2).observe (some .info) dumped).map Observed.deed =
        ((fresh 2).observe none kept).map Observed.deed ∧
      ((fresh 2).observe (some .info) dumped).map Observed.log =
        (((fresh 2).observe (some .trace) dumped).map fun observed =>
          Log.Threshold.sift (some .info) observed.log) ∧
      ((fresh 2).observe (some .info) dumped).map Observed.answer = ((fresh 2).run dumped).1 := by
  intro steps dumped kept
  have same : dumped.map Step.unobserved = kept.map Step.unobserved := rfl
  exact ⟨same, rfl, rfl, observation_inert (some .info) none rfl same⟩

end Session

end MeterBus
