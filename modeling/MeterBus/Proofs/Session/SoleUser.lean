import MeterBus.Session

/-! # One adapter and its only user

What holds of a station and its adapter in every reachable state of a session, whatever happens on
the other adapters. A law `P` of the station, if one is connected or let go of, and the adapter is
`Lasting` if cues, requests, connections and drops keep it one by one; then it holds after every
run in which no other station and no bare line is put on that adapter (`Lasting.run`). The invariant
of the run is `Kept`, which follows the names a session keeps.
-/
namespace MeterBus
set_option autoImplicit false

namespace Session

/-! ## Names -/

section Names

variable {α : Type} (name other : String) (value : α) (bound : List (String × α))

theorem lookup_cons :
    ((name, value) :: bound).lookup other =
      if other = name then some value else bound.lookup other := by
  rw [List.lookup_cons]
  by_cases same : other = name
  · rw [if_pos same, same, beq_self_eq_true]
  · rw [if_neg same, beq_false_of_ne same]

theorem lookup_without :
    (without name bound).lookup other = if other = name then none else bound.lookup other := by
  induction bound with
  | nil => simp [without]
  | cons entry bound ih =>
    obtain ⟨first, held⟩ := entry
    rw [without] at ih ⊢
    by_cases gone : first = name
    · rw [List.filter_cons_of_neg (by simp [gone]), ih, lookup_cons, gone]
      by_cases same : other = name <;> simp [same]
    · rw [List.filter_cons_of_pos (by simp [gone]), lookup_cons, lookup_cons, ih]
      by_cases same : other = name
      · simp [same, Ne.symm gone]
      · simp [same]

end Names

theorem lookup_dropStation (session : Session) (name : String) :
    (session.dropStation name).stations.lookup name = none := by
  unfold dropStation
  cases found : session.stations.lookup name with
  | none => exact found
  | some held =>
    show (without name session.stations).lookup name = none
    rw [lookup_without, if_pos rfl]

/-! ## Adapters -/

section Adapters

variable (session : Session) (adapter : Adapter) {index other : Nat}

theorem length_setAdapter :
    (session.setAdapter index adapter).adapters.length = session.adapters.length :=
  List.length_set

theorem adapter_setAdapter (room : index < session.adapters.length) :
    (session.setAdapter index adapter).adapter index = adapter := by
  simp [Session.adapter, setAdapter, room]

theorem adapter_setAdapter_ne (differs : other ≠ index) :
    (session.setAdapter other adapter).adapter index = session.adapter index := by
  simp [Session.adapter, setAdapter, List.getElem?_set_ne differs]

end Adapters

/-! ## Who uses an adapter -/

/-- The station of a binding, if the binding is to that adapter. -/
def occupant (index : Nat) (bound : Option (OnAdapter Station)) : Option Station :=
  bound.bind fun held => if held.adapter = index then some held.value else none

/-- The station of that name, if it is on that adapter. -/
def user (session : Session) (index : Nat) (name : String) : Option Station :=
  occupant index (session.stations.lookup name)

section Occupant

variable {bound : Option (OnAdapter Station)} {index other : Nat}

theorem occupant_eq (there : ∀ held, bound = some held → held.adapter = index) :
    occupant index bound = bound.map OnAdapter.value := by
  cases bound with
  | none => rfl
  | some held => exact if_pos (there held rfl)

theorem occupant_ne (there : ∀ held, bound = some held → held.adapter = other)
    (differs : other ≠ index) : occupant index bound = none := by
  cases bound with
  | none => rfl
  | some held =>
    apply if_neg
    rw [there held rfl]
    exact differs

end Occupant

/-- The step puts nobody but the station of that name on the adapter. -/
def Step.Sole (index : Nat) (name : String) : Step → Prop
  | .connect adapter other _ _ => adapter = index → other = name
  | .openLine adapter _ _ _ => adapter ≠ index
  | _ => True

/-- A law of an adapter and the station on it, if there is one, that nothing breaks which can happen
to the two. Stations are made of known device paths and observers only. -/
structure Lasting (known : String → Hooks → Prop) (P : Option Station → Adapter → Prop) : Prop where
  fresh : P none {}
  cue : ∀ user adapter cue, P user adapter → P user (adapter.cue cue)
  connect : ∀ device hooks adapter, known device hooks → P none adapter →
    match (Station.connect device hooks adapter).result with
    | .ok () =>
      P (some (Station.connect device hooks adapter).station)
        (Station.connect device hooks adapter).adapter
    | .error _ => P none (Station.connect device hooks adapter).adapter
  ask : ∀ station adapter request, P (some station) adapter →
    P (some (ask station adapter request).station) (ask station adapter request).adapter
  drop : ∀ station adapter, P (some station) adapter → P none (station.drop adapter)

/-! ## The invariant -/

/-- The adapter is there, only the station of that name and no bare line is on it, and the law holds
of the two. -/
structure Kept (P : Option Station → Adapter → Prop) (index : Nat) (name : String)
    (session : Session) : Prop where
  room : index < session.adapters.length
  sole : ∀ other held, session.stations.lookup other = some held → held.adapter = index →
    other = name
  clear : ∀ other held, session.lines.lookup other = some held → held.adapter ≠ index
  law : P (session.user index name) (session.adapter index)

section Invariant

variable {known : String → Hooks → Prop} {P : Option Station → Adapter → Prop} {index : Nat}
  {name : String} {session : Session} (h : Kept P index name session)
include h

theorem Kept.setAdapter {other : Nat} {adapter : Adapter}
    (here : other = index → P (session.user index name) adapter) :
    Kept P index name (session.setAdapter other adapter) where
  room := by
    rw [length_setAdapter]
    exact h.room
  sole := h.sole
  clear := h.clear
  law := by
    by_cases same : other = index
    · subst same
      rw [adapter_setAdapter session adapter h.room]
      exact here rfl
    · rw [adapter_setAdapter_ne session adapter same]
      exact h.law

/-- One name is bound anew or let go of, and the adapter of its binding is another. -/
theorem Kept.rebind (changed : String) {other : Nat} {adapter : Adapter}
    (now : Option (OnAdapter Station)) {stations : List (String × OnAdapter Station)}
    (lookup : ∀ any, stations.lookup any =
      if any = changed then now else session.stations.lookup any)
    (was : ∀ held, session.stations.lookup changed = some held → held.adapter = other)
    (becomes : ∀ held, now = some held → held.adapter = other)
    (here : other = index → changed = name ∧ P (now.map OnAdapter.value) adapter) :
    Kept P index name { session.setAdapter other adapter with stations } where
  room := by
    show index < (session.setAdapter other adapter).adapters.length
    rw [length_setAdapter]
    exact h.room
  sole := by
    intro any held found there
    have looked := (lookup any).symm.trans found
    by_cases same : any = changed
    · rw [if_pos same] at looked
      rw [same]
      exact (here ((becomes held looked).symm.trans there)).1
    · rw [if_neg same] at looked
      exact h.sole any held looked there
  clear := h.clear
  law := by
    show P (occupant index (stations.lookup name)) ((session.setAdapter other adapter).adapter index)
    rw [lookup]
    by_cases same : other = index
    · subst same
      obtain ⟨rfl, law⟩ := here rfl
      rw [if_pos rfl, occupant_eq becomes, adapter_setAdapter session adapter h.room]
      exact law
    · rw [adapter_setAdapter_ne session adapter same]
      have law := h.law
      rw [user] at law
      by_cases named : name = changed
      · subst named
        rw [occupant_ne was same] at law
        rw [if_pos rfl, occupant_ne becomes same]
        exact law
      · rw [if_neg named]
        exact law

theorem Kept.rename {lines : List (String × OnAdapter Unit)}
    (clear : ∀ other held, lines.lookup other = some held → held.adapter ≠ index) :
    Kept P index name { session with lines } where
  room := h.room
  sole := h.sole
  clear := clear
  law := h.law

/-- The law for a station on the adapter. -/
theorem Kept.law_some {other : String} {held : OnAdapter Station}
    (found : session.stations.lookup other = some held) (there : held.adapter = index) :
    other = name ∧ P (some held.value) (session.adapter index) := by
  obtain rfl := h.sole other held found there
  have law := h.law
  rw [user, found, occupant, Option.bind_some, if_pos there] at law
  exact ⟨rfl, law⟩

/-! ## Steps -/

theorem Kept.dropLine (other : String) : Kept P index name (session.dropLine other) := by
  unfold Session.dropLine
  cases found : session.lines.lookup other with
  | none => exact h
  | some held =>
    refine (h.setAdapter fun same => absurd same (h.clear other held found)).rename ?_
    intro any line looked
    rw [lookup_without] at looked
    split at looked
    · exact nomatch looked
    · exact h.clear any line looked

variable (lasting : Lasting known P)
include lasting

theorem Kept.dropStation (other : String) : Kept P index name (session.dropStation other) := by
  unfold Session.dropStation
  cases found : session.stations.lookup other with
  | none => exact h
  | some held =>
    refine h.rebind other none (fun any => lookup_without other any session.stations) ?_ ?_ ?_
    · intro bound looked
      exact congrArg OnAdapter.adapter (Option.some.inj (looked.symm.trans found))
    · intro bound looked
      exact nomatch looked
    · intro there
      obtain ⟨named, law⟩ := h.law_some found there
      rw [there]
      exact ⟨named, lasting.drop _ _ law⟩

theorem Kept.connect {other : Nat} {called device : String} {hooks : Hooks}
    (sole : other = index → called = name ∧ known device hooks) :
    Kept P index name (session.effect (.connect other called device hooks)).session := by
  have dropped := h.dropStation lasting called
  have gone := lookup_dropStation session called
  have free : other = index → P none ((session.dropStation called).adapter other) := by
    intro there
    have law := dropped.law
    rw [user, ← (sole there).1, gone] at law
    rw [there]
    exact law
  have made : other = index → _ := fun there =>
    lasting.connect device hooks _ (sole there).2 (free there)
  simp only [effect]
  generalize Station.connect device hooks ((session.dropStation called).adapter other) = outcome
    at made ⊢
  cases result : outcome.result with
  | error fault =>
    rw [result] at made
    refine dropped.setAdapter fun there => ?_
    rw [user, ← (sole there).1, gone]
    exact made there
  | ok done =>
    rw [result] at made
    refine dropped.rebind called (some ⟨other, outcome.station⟩) ?_ ?_ ?_ ?_
    · intro any
      exact lookup_cons called any _ _
    · intro held looked
      exact nomatch gone.symm.trans looked
    · intro held is
      rw [← Option.some.inj is]
    · intro there
      exact ⟨(sole there).1, made there⟩

theorem Kept.request (called : String) (request : Station.Request) :
    Kept P index name (session.effect (.request called request)).session := by
  simp only [effect]
  cases found : session.stations.lookup called with
  | none => exact h
  | some held =>
    refine h.rebind called
      (some ⟨held.adapter, (ask held.value (session.adapter held.adapter) request).station⟩)
      ?_ ?_ ?_ ?_
    · intro any
      rw [lookup_cons, lookup_without]
      by_cases same : any = called <;> simp only [same, if_true, if_false]
    · intro bound looked
      exact congrArg OnAdapter.adapter (Option.some.inj (looked.symm.trans found))
    · intro bound is
      rw [← Option.some.inj is]
    · intro there
      obtain ⟨named, law⟩ := h.law_some found there
      rw [← there] at law
      exact ⟨named, lasting.ask _ _ request law⟩

theorem Kept.effect {step : Step} (sole : step.Sole index name)
    (named : ∀ device hooks, step = .connect index name device hooks → known device hooks) :
    Kept P index name (session.effect step).session := by
  cases step with
  | cue other cue =>
    refine h.setAdapter fun there => ?_
    rw [there]
    exact lasting.cue _ _ cue h.law
  | connect other called device hooks =>
    refine h.connect lasting fun there => ⟨sole there, named device hooks ?_⟩
    rw [there, sole there]
  | request called request => exact h.request lasting called request
  | drop called =>
    simp only [Session.effect]
    cases session.stations.lookup called with
    | none => exact h
    | some held => exact h.dropStation lasting called
  | openLine other called path rate =>
    have dropped := h.dropLine called
    simp only [Session.effect]
    generalize ((session.dropLine called).adapter other).openAt path rate = answer
    match answer with
    | (.error fault, adapter) => exact dropped.setAdapter fun there => absurd there sole
    | (.ok (), adapter) =>
      refine (dropped.setAdapter fun there => absurd there sole).rename ?_
      intro any held looked
      rw [lookup_cons] at looked
      split at looked
      · rw [← Option.some.inj looked]
        exact sole
      · exact dropped.clear any held looked
  | line called request =>
    simp only [Session.effect]
    cases found : session.lines.lookup called with
    | none => exact h
    | some held => exact h.setAdapter fun there => absurd there (h.clear called held found)
  | closeLine called =>
    simp only [Session.effect]
    cases session.lines.lookup called with
    | none => exact h
    | some held => exact h.dropLine called

/-! ## Runs -/

theorem Kept.run {steps : List Step} (sole : ∀ step ∈ steps, step.Sole index name)
    (named : ∀ device hooks, .connect index name device hooks ∈ steps → known device hooks) :
    Kept P index name (session.run steps).2 := by
  induction steps generalizing session with
  | nil => exact h
  | cons step steps ih =>
    have first := h.effect lasting (sole step List.mem_cons_self) fun device hooks same =>
      named device hooks (by rw [same]; exact List.mem_cons_self)
    apply ih first
    · intro later member
      exact sole later (List.mem_cons_of_mem step member)
    · intro device hooks member
      exact named device hooks (List.mem_cons_of_mem step member)

end Invariant

theorem kept_fresh {known : String → Hooks → Prop} {P : Option Station → Adapter → Prop}
    (lasting : Lasting known P) {adapters index : Nat} (room : index < adapters) (name : String) :
    Kept P index name (fresh adapters) where
  room := by
    rw [fresh, List.length_replicate]
    exact room
  sole other held found := nomatch found
  clear other held found := nomatch found
  law := by
    have unused : (fresh adapters).adapter index = {} := by
      simp [Session.adapter, fresh, room]
    rw [unused]
    exact lasting.fresh

/-- **A lasting law holds in every reachable state.** -/
theorem Lasting.run {known : String → Hooks → Prop} {P : Option Station → Adapter → Prop}
    (lasting : Lasting known P) {adapters index : Nat} (room : index < adapters) {name : String}
    {steps : List Step} (sole : ∀ step ∈ steps, step.Sole index name)
    (named : ∀ device hooks, .connect index name device hooks ∈ steps → known device hooks) :
    P (((Session.fresh adapters).run steps).2.user index name)
      (((Session.fresh adapters).run steps).2.adapter index) :=
  ((kept_fresh lasting room name).run lasting sole named).law

end Session

end MeterBus
