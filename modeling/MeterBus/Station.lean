import MeterBus.Reception

/-!
# Stations

The master's end of a bus: a device path and the observers of its traffic. A station is connected
or not, and knows the rate it drives the line at. Its operations take the station and the adapter
behind it, and answer with both, the result, and the notes.

* `Station`, `Station.Outcome`, `Outcome.andThen`.
* `connect`, `reconnect`, `disconnect`, `drop`: opening and closing.
* `setRate`: the rate, together with the timeout it fixes.
* `send`, `receive`, `receiveWith`, `exchange`, `poll`: traffic.
-/

namespace MeterBus
set_option autoImplicit false

/-- The master's end of a bus. -/
structure Station where
  device : String
  connected : Bool := false
  rate : Rate := Rate.initial
  hooks : Hooks := {}

namespace Station

/-! ## Outcomes -/

structure Outcome (α : Type) where
  result : Except Fault α
  station : Station
  adapter : Adapter
  notes : List Note := []

/-- Goes on from a success; a fault ends the sequence. -/
def Outcome.andThen {α β : Type} (first : Outcome α) (next : α → Station → Adapter → Outcome β) :
    Outcome β :=
  match first.result with
  | .error fault => { first with result := .error fault }
  | .ok value =>
    let second := next value first.station first.adapter
    { second with notes := first.notes ++ second.notes }

/-- A fault that changes nothing. -/
def refuse {α : Type} (station : Station) (adapter : Adapter) (fault : Fault) : Outcome α :=
  { result := .error fault, station, adapter }

/-! ## Opening and closing -/

/-- Lets go of the line, which closes the adapter if there is one. -/
def drop (station : Station) (adapter : Adapter) : Adapter :=
  if station.connected then adapter.close else adapter

/-- Closes the line and opens the device again at the initial rate. -/
def reconnect (station : Station) (adapter : Adapter) : Outcome Unit :=
  let closed := { station with connected := false, rate := Rate.initial }
  match (station.drop adapter).openAt station.device Rate.initial with
  | (.error cause, adapter) => closed.refuse adapter (.connect station.device cause)
  | (.ok (), adapter) =>
    { result := .ok (), adapter, station := { closed with connected := true },
      notes := [.remark .debug
        ("Connected to " ++ station.device ++ " at " ++ Rate.initial.text ++ " baud")] }

/-- A station on a device, opened at the initial rate. -/
def connect (device : String) (hooks : Hooks) (adapter : Adapter) : Outcome Unit :=
  reconnect { device, hooks } adapter

/-- Closes the line. A closed station stays closed. -/
def disconnect (station : Station) (adapter : Adapter) : Outcome Unit :=
  if station.connected then
    { result := .ok (), adapter := adapter.close, station := { station with connected := false },
      notes := [.remark .debug ("Disconnected from " ++ station.device)] }
  else
    { result := .ok (), station, adapter,
      notes := [.remark .debug (station.device ++ " is already disconnected")] }

/-! ## Rate -/

/-- Drives the line at another rate. A number that is no rate is refused before anything else. -/
def setRate (station : Station) (adapter : Adapter) (number : Nat) : Outcome Unit :=
  match Rate.ofNumber? number with
  | none => station.refuse adapter (.unsupportedRate number)
  | some rate =>
    if station.connected then
      match adapter.retune rate with
      | (.error cause, adapter) => station.refuse adapter (.io cause)
      | (.ok (), adapter) =>
        { result := .ok (), adapter, station := { station with rate },
          notes := [.remark .debug (station.device ++ ": baud rate " ++ rate.text ++
            " (timeout " ++ rate.timeoutText ++ ")")] }
    else station.refuse adapter .notConnected

/-! ## Traffic -/

/-- Writes a frame in one piece and waits until it has left. Observers see it once the line has
taken all of it. -/
def send (station : Station) (adapter : Adapter) (frame : Frame) : Outcome Unit :=
  match frame.encode with
  | .error fault => station.refuse adapter (.encode fault.message)
  | .ok bytes =>
    if station.connected then
      match adapter.write bytes with
      | (.error cause, adapter) => station.refuse adapter (.write cause)
      | (.ok written, adapter) =>
        if written = bytes.length then
          { result := .ok (), station, adapter := adapter.drain,
            notes := station.hooks.fireSend adapter bytes }
        else
          { result := .error (.shortWrite written bytes.length), station, adapter,
            notes := [.remark .warn (station.device ++ ": short write (" ++ toString written ++
              " of " ++ toString bytes.length ++ " bytes)")] }
    else station.refuse adapter .notConnected

/-- Receives one frame, with a decoder to say how many bytes to read. -/
def receiveWith (station : Station) (adapter : Adapter) (decoder : Decoder) : Outcome Frame :=
  if station.connected then
    let heard := Reception.receive station.hooks decoder adapter
    { result := heard.result, station, adapter := heard.adapter, notes := heard.notes }
  else station.refuse adapter .notConnected

def receive (station : Station) (adapter : Adapter) : Outcome Frame :=
  station.receiveWith adapter Decoder.link

/-- Sends a request and receives the response. -/
def exchange (station : Station) (adapter : Adapter) (request : Frame) : Outcome Frame :=
  (station.send adapter request).andThen fun _ station adapter => station.receive adapter

/-- Asks the slave at `address` for its data at the present rate. -/
def poll (station : Station) (adapter : Adapter) (address : UInt8) : Outcome Frame :=
  station.exchange adapter (Frame.dataRequest address)

end Station

end MeterBus
