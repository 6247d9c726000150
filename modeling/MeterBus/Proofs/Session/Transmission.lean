import MeterBus.Proofs.Session.SoleUser
import MeterBus.Proofs.Station.Transmission

/-! # Every write of a run is accounted for

On an adapter that only one station uses, the bytes on the line are those of the recorded writes,
the writes are those of the sends in the order of the steps, and observers that keep sent frames
have on record exactly the frames that went out whole. Cues, reopenings, new rates and receptions
between the sends add nothing.

* `Session.sendings`, `Session.told`: the sends of a run, and what its observers noted.
* `Session.Transmitted`: the account.
-/
namespace MeterBus
open Adapter (Adds)
set_option autoImplicit false

namespace Session

/-! ## The sends of a run -/

/-- The send that a step makes on the adapter, if it makes one. -/
def sending? (session : Session) (index : Nat) : Step → Option Sending
  | .request name request =>
    (session.user index name).bind fun station =>
      request.sending? station (session.adapter index)
  | _ => none

def sendings (session : Session) (index : Nat) : List Step → List Sending
  | [] => []
  | step :: steps =>
    (session.sending? index step).toList ++ (session.perform step).2.sendings index steps

/-- The notes of a step if it is about the adapter. -/
def toldBy (session : Session) (index : Nat) (step : Step) : List Note :=
  if session.adapterOf step = index then (session.perform step).1.notes else []

def told (session : Session) (index : Nat) : List Step → List Note
  | [] => []
  | step :: steps => session.toldBy index step ++ (session.perform step).2.told index steps

/-! ## The law -/

/-- The station keeps what it sends, and the line carries what was written. -/
structure Carries (user : Option Station) (adapter : Adapter) : Prop where
  keeps : ∀ station, user = some station → station.hooks.KeepsSent
  carries : adapter.sent = adapter.written.flatten

theorem adds_cue (adapter : Adapter) (cue : Adapter.Cue) : adapter.Adds (adapter.cue cue) [] := by
  cases cue <;> exact (Adds.refl adapter).of_eq rfl rfl

theorem carries_lasting : Lasting (fun _ hooks => hooks.KeepsSent) Carries where
  fresh := ⟨nofun, rfl⟩
  cue user adapter cue law := ⟨law.keeps, (adds_cue adapter cue).carries law.carries⟩
  connect := by
    intro device hooks adapter keeps law
    have quiet := Station.quiet_reconnect { device, hooks } adapter
    split
    · refine ⟨?_, quiet.adds.carries law.carries⟩
      rintro _ ⟨⟩
      rw [Station.connect, quiet.hooks]
      exact keeps
    · exact ⟨law.keeps, quiet.adds.carries law.carries⟩
  ask := by
    intro station adapter request law
    have puts := Station.puts_ask adapter request (law.keeps station rfl)
    refine ⟨?_, puts.adds.carries law.carries⟩
    rintro _ ⟨⟩
    rw [puts.hooks]
    exact law.keeps station rfl
  drop station adapter law :=
    ⟨nofun, (station.adds_drop adapter).carries law.carries⟩

/-! ## Steps -/

section Steps

variable {index : Nat} {name : String} {session : Session}
  (h : Kept Carries index name session)
include h

theorem Kept.adds_setAdapter {other : Nat} {adapter : Adapter} {bytes : List Octets}
    (here : other = index → (session.adapter index).Adds adapter bytes)
    (elsewhere : other ≠ index → bytes = []) :
    (session.adapter index).Adds ((session.setAdapter other adapter).adapter index) bytes := by
  by_cases same : other = index
  · subst same
    rw [adapter_setAdapter session adapter h.room]
    exact here rfl
  · rw [adapter_setAdapter_ne session adapter same, elsewhere same]
    exact .refl _

theorem Kept.adds_dropStation (called : String) :
    (session.adapter index).Adds ((session.dropStation called).adapter index) [] := by
  unfold Session.dropStation
  cases session.stations.lookup called with
  | none => exact .refl _
  | some held =>
    refine h.adds_setAdapter (fun same => ?_) fun _ => rfl
    rw [same]
    exact held.value.adds_drop _

theorem Kept.adds_dropLine (called : String) :
    (session.adapter index).Adds ((session.dropLine called).adapter index) [] := by
  unfold Session.dropLine
  cases found : session.lines.lookup called with
  | none => exact .refl _
  | some held =>
    exact h.adds_setAdapter (fun same => absurd same (h.clear called held found)) fun _ => rfl

theorem Kept.adds_effect {step : Step} (sole : step.Sole index name) :
    (session.adapter index).Adds ((session.effect step).session.adapter index)
      ((session.sending? index step).toList.flatMap Sending.written) := by
  cases step with
  | cue other cue =>
    refine h.adds_setAdapter (fun same => ?_) fun _ => rfl
    rw [same]
    exact adds_cue _ cue
  | connect other called device hooks =>
    have dropped := h.adds_dropStation called
    have kept := h.dropStation carries_lasting called
    simp only [Session.effect]
    generalize session.dropStation called = session' at dropped kept ⊢
    have quiet := Station.quiet_reconnect { device, hooks } (session'.adapter other)
    have opened (same : other = index) : (session'.adapter index).Adds
        (Station.connect device hooks (session'.adapter other)).adapter [] := by
      rw [← same]
      exact quiet.adds
    split <;> exact dropped.trans (kept.adds_setAdapter opened fun _ => rfl)
  | request called request =>
    simp only [Session.effect, sending?, user]
    cases found : session.stations.lookup called with
    | none => exact .refl _
    | some held =>
      refine h.adds_setAdapter (fun same => ?_) fun differs => ?_
      · have law := (h.law_some found same).2
        rw [same, occupant, Option.bind_some, if_pos same]
        exact (Station.puts_ask _ request (law.keeps _ rfl)).adds
      · rw [occupant, Option.bind_some, if_neg differs]
        rfl
  | drop called =>
    simp only [Session.effect]
    cases session.stations.lookup called with
    | none => exact .refl _
    | some held => exact h.adds_dropStation called
  | openLine other called path rate =>
    have dropped := h.dropLine called
    simp only [Session.effect]
    split <;>
      exact (h.adds_dropLine called).trans
        (dropped.adds_setAdapter (fun same => absurd same sole) fun _ => rfl)
  | line called request =>
    simp only [Session.effect]
    cases found : session.lines.lookup called with
    | none => exact .refl _
    | some held =>
      exact h.adds_setAdapter (fun same => absurd same (h.clear called held found)) fun _ => rfl
  | closeLine called =>
    simp only [Session.effect]
    cases session.lines.lookup called with
    | none => exact .refl _
    | some held => exact h.adds_dropLine called

theorem Kept.told_effect {step : Step} (sole : step.Sole index name) :
    (session.toldBy index step).filterMap Note.sent? =
      (session.sending? index step).toList.flatMap Sending.reported := by
  simp only [toldBy, perform]
  cases step with
  | cue other cue => split <;> rfl
  | connect other called device hooks =>
    have quiet := Station.quiet_reconnect { device, hooks }
      ((session.dropStation called).adapter other)
    split
    · simp only [Session.effect]
      split <;> exact quiet.told
    · rfl
  | request called request =>
    simp only [Session.effect, adapterOf, sending?, user]
    obtain found | ⟨held, found⟩ := Option.eq_none_or_eq_some (session.stations.lookup called)
    · simp only [found]
      split <;> rfl
    · simp only [found, Option.elim_some, occupant, Option.bind_some]
      split
      case isTrue same =>
        have law := (h.law_some found same).2
        rw [same]
        exact (Station.puts_ask _ request (law.keeps _ rfl)).told
      case isFalse => rfl
  | drop called =>
    simp only [Session.effect]
    split
    · cases session.stations.lookup called <;> rfl
    · rfl
  | openLine other called path rate => exact congrArg _ (if_neg sole)
  | line called request =>
    simp only [Session.effect, adapterOf]
    obtain found | ⟨held, found⟩ := Option.eq_none_or_eq_some (session.lines.lookup called)
    · simp only [found]
      split <;> rfl
    · simp only [found, Option.elim_some, if_neg (h.clear called held found)]
      rfl
  | closeLine called =>
    simp only [Session.effect]
    split
    · cases session.lines.lookup called <;> rfl
    · rfl

/-! ## Runs -/

theorem Kept.adds_run {steps : List Step} (sole : ∀ step ∈ steps, step.Sole index name)
    (keeping : ∀ device hooks, .connect index name device hooks ∈ steps → hooks.KeepsSent) :
    ((session.run steps).2.adapter index).written =
        (session.adapter index).written ++
          (session.sendings index steps).flatMap Sending.written ∧
      (session.told index steps).filterMap Note.sent? =
        (session.sendings index steps).flatMap Sending.reported := by
  induction steps generalizing session with
  | nil => exact ⟨(List.append_nil _).symm, rfl⟩
  | cons step steps ih =>
    have here := sole step List.mem_cons_self
    have next := h.effect carries_lasting here fun device hooks same =>
      keeping device hooks (by rw [same]; exact List.mem_cons_self)
    obtain ⟨written, told⟩ := ih next
      (fun later member => sole later (List.mem_cons_of_mem step member))
      fun device hooks member => keeping device hooks (List.mem_cons_of_mem step member)
    constructor
    · have first := (h.adds_effect here).written
      rw [sendings, List.flatMap_append, ← List.append_assoc, ← first]
      exact written
    · have first := h.told_effect here
      rw [Session.told, sendings, List.filterMap_append, List.flatMap_append, first]
      exact congrArg _ told

end Steps

theorem sending?_made {session : Session} {index : Nat} {step : Step} {sending : Sending}
    (made : session.sending? index step = some sending) :
    sending.request.sending? sending.station sending.adapter = some sending := by
  cases step with
  | request name request =>
    obtain ⟨station, _, made⟩ := Option.bind_eq_some_iff.mp made
    obtain ⟨frame, found, rfl⟩ := Option.map_eq_some_iff.mp made
    exact Option.map_eq_some_iff.mpr ⟨frame, found, rfl⟩
  | _ => exact nomatch made

theorem sendings_made {session : Session} {index : Nat} {steps : List Step} {sending : Sending}
    (member : sending ∈ session.sendings index steps) :
    sending.request.sending? sending.station sending.adapter = some sending := by
  induction steps generalizing session with
  | nil => exact nomatch member
  | cons step steps ih =>
    rcases List.mem_append.mp member with here | later
    · exact sending?_made (Option.mem_toList.mp here)
    · exact ih later

/-- The account of an adapter and its only station over a run. -/
structure Transmitted (session : Session) (index : Nat) (steps : List Step) : Prop where
  /-- The bytes on the line are those of the recorded writes. -/
  carries : ((session.run steps).2.adapter index).sent =
    ((session.run steps).2.adapter index).written.flatten
  /-- Every send is what a request begins with, and ends in one of the five ways. -/
  leads : ∀ sending ∈ session.sendings index steps,
    sending.Leads (ask sending.station sending.adapter sending.request)
  ends : ∀ sending ∈ session.sendings index steps, ∃! way, sending.Ends way
  /-- A send that fails is the last thing its request does. -/
  fails : ∀ sending ∈ session.sendings index steps, ∀ fault,
    sending.outcome.result = .error fault →
      (ask sending.station sending.adapter sending.request).state =
        (.error fault, sending.outcome.station, sending.outcome.adapter)
  written : ((session.run steps).2.adapter index).written =
    (session.adapter index).written ++ (session.sendings index steps).flatMap Sending.written
  told : (session.told index steps).filterMap Note.sent? =
    (session.sendings index steps).flatMap Sending.reported

/-- **Every write of a run is accounted for.** On an adapter that is left to the station of one
name, whose observers keep sent frames, each send of any request ends in one of the five ways, and
these are all the writes and all the records. -/
theorem transmissions_accounted {adapters index : Nat} (room : index < adapters) {name : String}
    {steps : List Step} (sole : ∀ step ∈ steps, step.Sole index name)
    (keeping : ∀ device hooks, .connect index name device hooks ∈ steps → hooks.KeepsSent) :
    (fresh adapters).Transmitted index steps := by
  have h := kept_fresh carries_lasting room name
  obtain ⟨written, told⟩ := h.adds_run sole keeping
  have law := carries_lasting.run room sole keeping
  have leads (sending : Sending) (member : sending ∈ (fresh adapters).sendings index steps) :=
    Sending.leads_ask (sendings_made member)
  exact ⟨law.carries, leads, fun sending _ => sending.existsUnique_ends,
    fun sending member fault failed => (leads sending member).failed failed, written, told⟩

/-- A write refused under an exchange, one cut short under a poll, a frame without a wire form, a
station that let go of its line, and a probe after it opened the line again. -/
theorem transmissions_accounted_failures :
    let steps : List Step := [.connect 0 "meter" "/dev/ttyUSB0" (Hooks.recording "meter"),
      .request "meter" (.send Frame.ack), .cue 0 (.refuseWrite .brokenPipe),
      .request "meter" (.exchange (Frame.linkReset 5)), .cue 0 (.limitWrites 3),
      .request "meter" (.poll 5), .request "meter" (.send ⟨.control, 0, 0, 0, [1], 0⟩),
      .request "meter" .disconnect, .request "meter" (.send Frame.ack),
      .request "meter" .reconnect, .cue 0 (.limitWrites 5), .request "meter" (.probe {} 5)]
    (∀ step ∈ steps, step.Sole 0 "meter") ∧
      (∀ device hooks, .connect 0 "meter" device hooks ∈ steps → hooks.KeepsSent) ∧
      ((fresh 1).sendings 0 steps).map (fun sending => Sending.Way.of sending.outcome.result) =
        [.whole, .faulted, .short, .unpacked, .unconnected, .whole] ∧
      ((fresh 1).sendings 0 steps).flatMap Sending.written =
        [[0xE5], [0x10, 0x5B, 5], [0x10, 0x7B, 5, 0x80, 0x16]] ∧
      (fresh 1).Transmitted 0 steps := by
  intro steps
  have sole : ∀ step ∈ steps, step.Sole 0 "meter" := by
    simp [steps, Step.Sole]
  have keeping : ∀ device hooks, .connect 0 "meter" device hooks ∈ steps → hooks.KeepsSent := by
    intro device hooks member
    simp only [steps, List.mem_cons, reduceCtorEq, List.not_mem_nil, or_false,
      Step.connect.injEq] at member
    rw [member.2.2.2]
    exact Hooks.recording_keepsSent "meter"
  exact ⟨sole, keeping, rfl, rfl, transmissions_accounted (by decide) sole keeping⟩

end Session

end MeterBus
