import MeterBus.Arguments
import MeterBus.Config

/-!
# The tool

Requests data from one meter that answers at another rate, as the command line says. A setting comes
from its option, else from the configuration file, else from the defaults.

* `Tool.Fault`, `Fault.causes`, `Fault.message`: what can go wrong, as a chain of causes.
* `Tool.load`: the settings in effect.
* `Tool.request`, `Tool.report`: the request, and what is printed of the response.
* `Tool.run`: everything, on an adapter.
-/

namespace MeterBus.Tool
set_option autoImplicit false

/-! ## Faults -/

inductive Fault where
  | unreadable (path reason : String)
  | invalid (path : String) (cause : Config.Fault)
  /-- An option names a number that is no rate. -/
  | unsupportedRate (number : Nat)
  | setup (cause : MeterBus.Fault)
  | rate (wanted : Rate) (cause : MeterBus.Fault)
  | response (cause : MeterBus.Fault)
  deriving DecidableEq, Repr

/-- A fault of the transport and the objection of the line below it. -/
def chain (fault : MeterBus.Fault) : List String :=
  fault.message :: (fault.cause?.map IoFault.text).toList

namespace Fault

/-- What the tool was about when it failed. -/
def context : Fault → String
  | unreadable path _ => "Failed to read " ++ path
  | invalid path _ => "Invalid configuration in " ++ path
  | unsupportedRate number => (MeterBus.Fault.unsupportedRate number).message
  | setup _ => "Failed to setup connection to M-Bus gateway"
  | rate wanted _ => "Failed to set baud rate to " ++ wanted.text
  | response _ => "Failed to receive M-Bus response frame"

/-- The causes below it, the nearest first. -/
def causes : Fault → List String
  | unreadable _ reason => [reason]
  | invalid _ cause => [cause.message]
  | unsupportedRate _ => []
  | setup cause => chain cause
  | rate _ cause => chain cause
  | response cause => chain cause

def message (fault : Fault) : String := String.intercalate ": " (fault.context :: fault.causes)

end Fault

/-! ## Settings -/

/-- The contents of files by path, or the reason why one cannot be read. -/
abbrev Files := String → Except String String

/-- The settings of the configuration file, or the defaults without one. -/
def fileSettings (files : Files) : Option String → Except Fault ToolConfig
  | none => .ok {}
  | some path =>
    match files path with
    | .error reason => .error (.unreadable path reason)
    | .ok text => (ToolConfig.ofText text).mapError (.invalid path)

/-- The rate an option names, or the one set otherwise. -/
def chooseRate (option : Option Nat) (otherwise : Rate) : Except Fault Rate :=
  match option with
  | none => .ok otherwise
  | some number =>
    match Rate.ofNumber? number with
    | some rate => .ok rate
    | none => .error (.unsupportedRate number)

def load (files : Files) (arguments : Arguments) : Except Fault ToolConfig := do
  let config ← fileSettings files arguments.config
  let rate ← chooseRate arguments.baudrate config.serial.rate
  let target ← chooseRate arguments.targetBaudrate config.probe.target
  let attempts := arguments.attempts.getD config.probe.attempts
  return { serial := { rate }, probe := { target, attempts } }

/-! ## The request -/

/-- What a request came to: the response, or a fault, and what was left on the way. -/
structure Outcome (α : Type) where
  result : Except Fault α
  adapter : Adapter
  notes : List Note := []

/-- Sets the rate, probes the meter and closes the line, whatever came of it. -/
def request (config : ToolConfig) (address : UInt8) (station : Station) (adapter : Adapter) :
    Outcome Frame :=
  let tuned := station.setRate adapter config.serial.rate.number
  match tuned.result with
  | .error fault =>
    let closed := tuned.station.disconnect tuned.adapter
    { result := .error (.rate config.serial.rate fault), adapter := closed.adapter,
      notes := tuned.notes ++ closed.notes }
  | .ok () =>
    let probed := config.probe.run tuned.station tuned.adapter address
    let closed := probed.station.disconnect probed.adapter
    { result := probed.result.mapError .response, adapter := closed.adapter,
      notes := tuned.notes ++ probed.notes ++ closed.notes }

/-- What is printed of a response: its data, and its header. -/
def report (frame : Frame) : List String :=
  let pair (byte : UInt8) := String.ofList (Octets.hexPair byte)
  [Octets.hex frame.data,
   "C=" ++ pair frame.control ++ " A=" ++ pair frame.address ++ " CI=" ++ pair frame.information ++
     " (" ++ toString frame.data.length ++ " data bytes)"]

/-- Reads the settings, opens the device on an adapter, requests data and reports it. -/
def run (files : Files) (arguments : Arguments) (adapter : Adapter) : Outcome (List String) :=
  match load files arguments with
  | .error fault => { result := .error fault, adapter }
  | .ok config =>
    let hooks := if arguments.debug then Hooks.hexDump else Hooks.silent
    let opened := Station.connect arguments.device hooks adapter
    match opened.result with
    | .error fault =>
      { result := .error (.setup fault), adapter := opened.adapter, notes := opened.notes }
    | .ok () =>
      let asked := request config arguments.address opened.station opened.adapter
      { result := asked.result.map report, adapter := asked.adapter,
        notes := opened.notes ++ asked.notes }

end MeterBus.Tool
