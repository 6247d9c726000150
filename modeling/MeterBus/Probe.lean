import MeterBus.Station

/-!
# Probes

Some meters are addressed at the initial rate of the bus and answer at a higher one, several hundred
milliseconds late. A probe wakes such a meter, opens the line afresh, switches to the rate of the
answer and then listens a limited number of times.

* `Probe`: the rate of the answer and the number of attempts.
* `Probe.listen`: the attempts.
* `Probe.run`: the whole sequence.
-/

namespace MeterBus
set_option autoImplicit false

/-- How to read a meter that answers at another rate. -/
structure Probe where
  target : Rate := .baud9600
  attempts : Nat := Link.probeAttempts
  deriving DecidableEq, Repr

namespace Probe

def openingNote (probe : Probe) (address : UInt8) (rate : Rate) : Note :=
  .remark .debug ("Probing address " ++ toString address.toNat ++ ": wake at " ++ rate.text ++
    " baud, reply at " ++ probe.target.text ++ " baud")

def answeredNote (address : UInt8) (attempt : Nat) : Note :=
  .remark .debug ("Address " ++ toString address.toNat ++ " answered on attempt " ++
    toString attempt)

def missedNote (probe : Probe) (attempt : Nat) (fault : Fault) : Note :=
  .remark .debug ("Attempt " ++ toString attempt ++ "/" ++ toString probe.attempts ++ ": " ++
    fault.message)

/-- Receives until a frame arrives or no attempts are `left`. Every fault costs one attempt. -/
def listen (probe : Probe) (address : UInt8) (left : Nat) (station : Station) (adapter : Adapter) :
    Station.Outcome Frame :=
  match left with
  | 0 => station.refuse adapter (.noResponse address probe.attempts)
  | left + 1 =>
    let attempt := probe.attempts - left
    let heard := station.receive adapter
    match heard.result with
    | .ok frame =>
      { heard with result := .ok frame, notes := heard.notes ++ [answeredNote address attempt] }
    | .error fault =>
      let rest := probe.listen address left heard.station heard.adapter
      { rest with notes := heard.notes ++ missedNote probe attempt fault :: rest.notes }

/-- Wakes the meter at `address`, opens the line afresh, switches to the rate of the answer and
listens. -/
def run (probe : Probe) (station : Station) (adapter : Adapter) (address : UInt8) :
    Station.Outcome Frame :=
  let outcome := (station.send adapter (Frame.wakeRequest address))
    |>.andThen (fun _ station adapter => station.disconnect adapter)
    |>.andThen (fun _ station adapter => station.reconnect adapter)
    |>.andThen (fun _ station adapter => station.setRate adapter probe.target.number)
    |>.andThen (fun _ station adapter => probe.listen address probe.attempts station adapter)
  { outcome with notes := probe.openingNote address station.rate :: outcome.notes }

end Probe

end MeterBus
