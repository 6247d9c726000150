import MeterBus.Proofs.Reception.Verdict
import MeterBus.Proofs.Station.Sending
import MeterBus.Proofs.Station.Upkeep

/-! # What a station puts on the line

Nothing that a station does writes or tells of a sent frame, but for a send. So a request puts on
the line, and on record, what the send it begins with does, and nothing if it makes none.

* `Adapter.Adds`, `Station.Outcome.Puts`: what an operation adds to the writes and to the record.
* `Sending.Leads`: a request as a send with something quiet behind it.
* `Station.puts_ask`: the account of a request.
-/
namespace MeterBus
set_option autoImplicit false

/-! ## What an operation adds -/

/-- `Adds adapter later bytes`: these writes were made since, and their bytes went out. -/
structure Adapter.Adds (adapter later : Adapter) (bytes : List Octets) : Prop where
  written : later.written = adapter.written ++ bytes
  sent : later.sent = adapter.sent ++ bytes.flatten

namespace Adapter

variable {adapter later next : Adapter} {bytes : List Octets}

theorem Adds.refl (adapter : Adapter) : Adds adapter adapter [] where
  written := (List.append_nil _).symm
  sent := (List.append_nil _).symm

theorem Adds.of_eq (h : Adds adapter later bytes) (past : next.past = later.past)
    (pastSent : next.pastSent = later.pastSent) : Adds adapter next bytes where
  written := by
    rw [Adapter.written, events, past]
    exact h.written
  sent := by
    rw [Adapter.sent, pastSent]
    exact h.sent

theorem Adds.followed (h : Adds adapter later bytes) {event : Event}
    (past : next.past = event :: later.past) (silent : event.wrote? = none)
    (pastSent : next.pastSent = later.pastSent) : Adds adapter next bytes where
  written := by
    rw [written_cons past, silent, h.written]
    exact List.append_nil _
  sent := by
    rw [Adapter.sent, pastSent]
    exact h.sent

theorem Adds.trans (h : Adds adapter later bytes) (quiet : Adds later next []) :
    Adds adapter next bytes where
  written := by rw [quiet.written, h.written, List.append_nil]
  sent := by rw [quiet.sent, h.sent, List.flatten_nil, List.append_nil]

theorem Adds.carries (h : Adds adapter later bytes)
    (carries : adapter.sent = adapter.written.flatten) : later.sent = later.written.flatten := by
  rw [h.sent, h.written, carries, List.flatten_append]

end Adapter

theorem Reception.calls_received (buffer : Octets) (ending : Ending) :
    (calls buffer ending).filterMap
      (fun call => if call.1 = .sent then some call.2 else none) = [] := by
  unfold calls
  split
  · rfl
  · split <;> rfl

namespace Station

/-- What an operation adds to the writes of the adapter and to the record. -/
structure Outcome.Puts {α : Type} (outcome : Outcome α) (station : Station) (adapter : Adapter)
    (written reported : List Octets) : Prop where
  adds : adapter.Adds outcome.adapter written
  told : outcome.notes.filterMap Note.sent? = reported
  hooks : outcome.station.hooks = station.hooks

/-- Nothing is written and no frame is said to be sent. -/
def Outcome.Quiet {α : Type} (outcome : Outcome α) (station : Station) (adapter : Adapter) : Prop :=
  outcome.Puts station adapter [] []

theorem quiet_refuse {α : Type} (station : Station) (adapter : Adapter) (fault : Fault) :
    (station.refuse adapter fault : Outcome α).Quiet station adapter :=
  ⟨.refl adapter, rfl, rfl⟩

theorem Outcome.Puts.andThen {α β : Type} {first : Outcome α} {station : Station}
    {adapter : Adapter} {written reported : List Octets}
    (h : first.Puts station adapter written reported) (keeps : station.hooks.KeepsSent)
    {next : α → Station → Adapter → Outcome β}
    (quiet : ∀ value station adapter, station.hooks.KeepsSent →
      (next value station adapter).Quiet station adapter) :
    (first.andThen next).Puts station adapter written reported := by
  cases result : first.result with
  | error fault =>
    rw [andThen_error result]
    exact ⟨h.adds, h.told, h.hooks⟩
  | ok value =>
    have later := quiet value first.station first.adapter (h.hooks ▸ keeps)
    rw [andThen_ok result]
    refine ⟨h.adds.trans later.adds, ?_, later.hooks.trans h.hooks⟩
    rw [List.filterMap_append, h.told, later.told, List.append_nil]

section Operations

variable (station : Station) (adapter : Adapter)

theorem adds_drop : adapter.Adds (station.drop adapter) [] := by
  unfold drop
  split
  · exact (Adapter.Adds.refl adapter).followed rfl rfl rfl
  · exact .refl adapter

theorem quiet_reconnect : (station.reconnect adapter).Quiet station adapter := by
  have dropped := station.adds_drop adapter
  have reopens := station.reopens adapter
  generalize station.reconnect adapter = outcome at reopens ⊢
  cases reopens with
  | refused cause objects => exact ⟨dropped, rfl, rfl⟩
  | opened clear => exact ⟨dropped.followed rfl rfl rfl, rfl, rfl⟩

theorem quiet_disconnect : (station.disconnect adapter).Quiet station adapter := by
  unfold disconnect
  split
  · exact ⟨(Adapter.Adds.refl adapter).followed rfl rfl rfl, rfl, rfl⟩
  · exact ⟨.refl adapter, rfl, rfl⟩

theorem quiet_setRate (number : Nat) : (station.setRate adapter number).Quiet station adapter := by
  have retunes := station.retunes adapter number
  generalize station.setRate adapter number = outcome at retunes ⊢
  cases retunes with
  | unsupported | unconnected | refused => exact quiet_refuse station adapter _
  | retuned => exact ⟨(Adapter.Adds.refl adapter).followed rfl rfl rfl, rfl, rfl⟩

variable {station} (keeps : station.hooks.KeepsSent)
include keeps

theorem quiet_receiveWith (decoder : Decoder) :
    (station.receiveWith adapter decoder).Quiet station adapter := by
  unfold receiveWith
  split
  · have kept := Reception.gather_keeps Adapter.source
      (fun adapter => (adapter.past, adapter.pastSent)) (fun _ _ => rfl) decoder adapter [] 0 []
      (.needMore 1)
    obtain ⟨past, pastSent⟩ := Prod.mk.inj kept
    have calls := Reception.receiveFrom_calls Adapter.source decoder adapter
    refine ⟨(Adapter.Adds.refl adapter).of_eq past pastSent, (calls.keptSent keeps).trans ?_, rfl⟩
    exact Reception.calls_received _ _
  · exact quiet_refuse station adapter _

theorem quiet_listen (probe : Probe) (address : UInt8) (left : Nat) :
    (probe.listen address left station adapter).Quiet station adapter := by
  induction left generalizing station adapter with
  | zero => exact quiet_refuse station adapter _
  | succ left ih =>
    have heard : (station.receive adapter).Quiet station adapter :=
      quiet_receiveWith adapter keeps Decoder.link
    simp only [Probe.listen]
    split
    · refine ⟨heard.adds, ?_, heard.hooks⟩
      rw [List.filterMap_append, heard.told]
      rfl
    · have rest := @ih (station.receive adapter).station (station.receive adapter).adapter
        (heard.hooks ▸ keeps)
      refine ⟨heard.adds.trans rest.adds, ?_, rest.hooks.trans heard.hooks⟩
      rw [List.filterMap_append, heard.told, List.nil_append]
      exact rest.told

theorem quiet_receive : (station.receive adapter).Quiet station adapter :=
  quiet_receiveWith adapter keeps Decoder.link

end Operations

end Station

/-! ## Sends and the requests they are made for -/

def Station.Request.frame? : Station.Request → Option Frame
  | .send frame | .exchange frame => some frame
  | .poll address => some (Frame.dataRequest address)
  | .probe _ address => some (Frame.wakeRequest address)
  | _ => none

/-- The send that a request begins with, if it makes one. -/
def Station.Request.sending? (request : Station.Request) (station : Station) (adapter : Adapter) :
    Option Sending :=
  request.frame?.map fun frame => { station, adapter, request, frame }

namespace Sending

variable (sending : Sending)

variable {sending} in
theorem Leaves.puts {result : Except Fault Unit} {events : List Adapter.Event} {bytes : Octets}
    {armed : Option IoFault.Kind} (h : sending.Leaves sending.outcome result events bytes armed)
    (flat : (events.filterMap Adapter.Event.wrote?).flatten = bytes) {reported : List Octets}
    (told : sending.outcome.notes.filterMap Note.sent? = reported) :
    sending.outcome.Puts sending.station sending.adapter
      (events.filterMap Adapter.Event.wrote?) reported := by
  refine ⟨⟨?_, ?_⟩, told, congrArg Station.hooks h.station⟩
  · rw [Adapter.written, h.events, List.filterMap_append]
    rfl
  · rw [h.sent, flat]

theorem puts (keeps : sending.station.hooks.KeepsSent) :
    sending.outcome.Puts sending.station sending.adapter sending.written sending.reported := by
  obtain ⟨way, ends⟩ := sending.exists_ends
  have untold (h : Calls sending.notes []) :
      sending.outcome.notes.filterMap Note.sent? = [] := h.keptSent keeps
  cases ends with
  | unpacked fault unfit leaves calls =>
    have puts := leaves.puts rfl (untold calls)
    simp only [written, reported, unfit]
    exact puts
  | unconnected wire packed closed leaves calls =>
    have puts := leaves.puts rfl (untold calls)
    simp only [written, reported, packed, leaves.result]
    exact puts
  | faulted wire packed connected kind armed leaves calls =>
    have puts := leaves.puts rfl (untold calls)
    simp only [written, reported, packed, leaves.result]
    exact puts
  | short wire packed connected clear taken limited less leaves calls =>
    have puts := leaves.puts (List.append_nil _) (untold calls)
    simp only [written, reported, packed, leaves.result]
    exact puts
  | whole wire packed connected clear room leaves line wrote sent told =>
    have reports : sending.outcome.notes.filterMap Note.sent? = [wire] := by
      rw [show sending.outcome.notes = _ from told sending.station.hooks]
      exact keeps.heard line wire
    have puts := leaves.puts (List.append_nil _) reports
    simp only [written, reported, packed, leaves.result]
    exact puts

end Sending

namespace Sending
open Session (ask reply)
open Station (andThen_assoc andThen_error andThen_ok quiet_listen quiet_receive)

/-- `Leads outcome`: the outcome is that of the send followed, if it succeeds, by something that
writes nothing and tells of no sent frame. A remark may stand in front. -/
inductive Leads (sending : Sending) : Station.Outcome Session.Reply → Prop where
  | before (opening : List Note) (silent : opening.filterMap Note.record? = [])
    (rest : Station → Adapter → Station.Outcome Session.Reply)
    (quiet : ∀ station adapter, station.hooks.KeepsSent →
      (rest station adapter).Quiet station adapter) :
    Leads sending
      { sending.outcome.andThen fun _ => rest with
        notes := opening ++ (sending.outcome.andThen fun _ => rest).notes }

section Leads

variable {sending : Sending} {outcome : Station.Outcome Session.Reply} (h : sending.Leads outcome)
include h

theorem Leads.puts (keeps : sending.station.hooks.KeepsSent) :
    outcome.Puts sending.station sending.adapter sending.written sending.reported := by
  obtain ⟨opening, silent, rest, quiet⟩ := h
  have whole := (sending.puts keeps).andThen keeps fun _ => quiet
  refine ⟨whole.adds, ?_, whole.hooks⟩
  rw [List.filterMap_append, filterMap_sent?_own silent, List.nil_append, whole.told]

theorem Leads.failed {fault : Fault} (failed : sending.outcome.result = .error fault) :
    outcome.state = (.error fault, sending.outcome.station, sending.outcome.adapter) := by
  obtain ⟨opening, silent, rest, quiet⟩ := h
  rw [andThen_error failed]
  rfl

end Leads

/-- Replies as it is told and leaves everything as it is. -/
def conclude (reply : Session.Reply) (station : Station) (adapter : Adapter) :
    Station.Outcome Session.Reply :=
  { result := .ok reply, station, adapter }

theorem quiet_conclude (reply : Session.Reply) (station : Station) (adapter : Adapter) :
    (conclude reply station adapter).Quiet station adapter :=
  ⟨.refl adapter, rfl, rfl⟩

theorem reply_eq_andThen {α : Type} (outcome : Station.Outcome α) (value : α → Session.Reply) :
    reply outcome value = outcome.andThen fun result => conclude (value result) := by
  cases result : outcome.result with
  | error fault =>
    rw [andThen_error result, reply, result]
    rfl
  | ok value =>
    rw [andThen_ok result, reply, result, conclude, List.append_nil]
    rfl

theorem andThen_noting {α β : Type} (opening : Note) (first : Station.Outcome α)
    (next : α → Station → Adapter → Station.Outcome β) :
    ({ first with notes := opening :: first.notes } : Station.Outcome α).andThen next =
      { first.andThen next with notes := [opening] ++ (first.andThen next).notes } := by
  unfold Station.Outcome.andThen
  cases first.result <;> rfl

variable {station : Station} {adapter : Adapter}

theorem leads_send (request : Station.Request) (frame : Frame) :
    Leads { station, adapter, request, frame }
      (reply (station.send adapter frame) fun _ => .done) := by
  rw [reply_eq_andThen]
  exact .before [] rfl (conclude .done) fun station adapter _ => quiet_conclude _ station adapter

theorem leads_exchange (request : Station.Request) (frame : Frame) :
    Leads { station, adapter, request, frame } (reply (station.exchange adapter frame) .frame) := by
  rw [reply_eq_andThen, Station.exchange, andThen_assoc]
  refine .before [] rfl (fun station adapter =>
    (station.receive adapter).andThen fun frame => conclude (.frame frame)) ?_
  intro station adapter keeps
  exact (quiet_receive adapter keeps).andThen keeps fun _ station adapter _ =>
    quiet_conclude _ station adapter

theorem leads_probe (request : Station.Request) (probe : Probe) (address : UInt8) :
    Leads { station, adapter, request, frame := Frame.wakeRequest address }
      (reply (probe.run station adapter address) .frame) := by
  -- Bracketed to the left in the sequence itself; bracketed to the right, the send stands in front.
  rw [reply_eq_andThen, Probe.run, andThen_noting]
  simp only [andThen_assoc]
  refine .before [probe.openingNote address station.rate] rfl (fun station adapter =>
    (station.disconnect adapter).andThen fun _ station adapter =>
      (station.reconnect adapter).andThen fun _ station adapter =>
        (station.setRate adapter probe.target.number).andThen fun _ station adapter =>
          (probe.listen address probe.attempts station adapter).andThen fun frame =>
            conclude (.frame frame)) ?_
  intro station adapter keeps
  refine (station.quiet_disconnect adapter).andThen keeps fun _ station adapter keeps => ?_
  refine (station.quiet_reconnect adapter).andThen keeps fun _ station adapter keeps => ?_
  refine (station.quiet_setRate adapter _).andThen keeps fun _ station adapter keeps => ?_
  exact (quiet_listen adapter keeps probe address probe.attempts).andThen keeps
    fun _ station adapter _ => quiet_conclude _ station adapter

/-- A request that makes a send is that send and what follows on it. -/
theorem leads_ask {request : Station.Request} {sending : Sending}
    (made : request.sending? station adapter = some sending) :
    sending.Leads (ask station adapter request) := by
  cases request with
  | rest | reconnect | disconnect | setRate | receive => exact nomatch made
  | send frame =>
    obtain rfl := Option.some.inj made
    exact leads_send _ frame
  | exchange frame =>
    obtain rfl := Option.some.inj made
    exact leads_exchange _ frame
  | poll address =>
    obtain rfl := Option.some.inj made
    exact leads_exchange _ (Frame.dataRequest address)
  | probe probe address =>
    obtain rfl := Option.some.inj made
    exact leads_probe _ probe address

end Sending

namespace Station
open Session (ask reply)

theorem Outcome.Puts.reply {α : Type} {outcome : Outcome α} {station : Station} {adapter : Adapter}
    {written reported : List Octets} (h : outcome.Puts station adapter written reported)
    (value : α → Session.Reply) : (reply outcome value).Puts station adapter written reported :=
  ⟨h.adds, h.told, h.hooks⟩

variable {station : Station} (adapter : Adapter) (request : Request)
  (keeps : station.hooks.KeepsSent)
include keeps

theorem quiet_ask (unmade : request.sending? station adapter = none) :
    (ask station adapter request).Quiet station adapter := by
  cases request with
  | rest => exact ⟨.refl adapter, rfl, rfl⟩
  | reconnect => exact (station.quiet_reconnect adapter).reply _
  | disconnect => exact (station.quiet_disconnect adapter).reply _
  | setRate number => exact (station.quiet_setRate adapter number).reply _
  | receive decoder => exact (quiet_receiveWith adapter keeps decoder).reply _
  | send | exchange | poll | probe => exact nomatch unmade

/-- **A request writes and reports what its send does, and nothing if it makes none.** -/
theorem puts_ask :
    (ask station adapter request).Puts station adapter
      ((request.sending? station adapter).toList.flatMap Sending.written)
      ((request.sending? station adapter).toList.flatMap Sending.reported) := by
  cases made : request.sending? station adapter with
  | none => exact quiet_ask adapter request keeps made
  | some sending =>
    obtain ⟨frame, _, rfl⟩ := Option.map_eq_some_iff.mp made
    have puts := (Sending.leads_ask made).puts keeps
    simpa only [Option.toList_some, List.flatMap_cons, List.flatMap_nil, List.append_nil] using puts

end Station

end MeterBus
