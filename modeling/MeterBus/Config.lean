import MeterBus.Config.Reader
import MeterBus.Probe

/-!
# Configuration

The settings of the tool: the rate of the line and the probe. Each part has a text form, written
without blanks and with its members in a fixed order; reading fills what is absent with defaults.

* `SerialConfig`, `ToolConfig`: the settings. A `Probe` is its own configuration.
* `SerialConfig.text`, `Probe.text`, `ToolConfig.text`: writing.
* `Rate.ofText`, `SerialConfig.ofText`, `Probe.ofText`, `ToolConfig.ofText`: reading.
-/

namespace MeterBus
set_option autoImplicit false

structure SerialConfig where
  rate : Rate := Rate.initial
  deriving DecidableEq, Repr

structure ToolConfig where
  serial : SerialConfig := {}
  probe : Probe := {}
  deriving DecidableEq, Repr

/-! ## Writing -/

def SerialConfig.text (config : SerialConfig) : String :=
  "\x7b\"baudrate\":" ++ config.rate.text ++ "\x7d"

def Probe.text (probe : Probe) : String :=
  "\x7b\"target_baudrate\":" ++ probe.target.text ++ ",\"attempts\":" ++ toString probe.attempts ++
    "\x7d"

def ToolConfig.text (config : ToolConfig) : String :=
  "\x7b\"serial\":" ++ config.serial.text ++ ",\"probe\":" ++ config.probe.text ++ "\x7d"

/-! ## Reading -/

namespace Config

/-- The wording of an objection to configuration text. -/
def Fault.message : Config.Fault → String
  | .malformed => "not a configuration"
  | .unsupportedRate number => (MeterBus.Fault.unsupportedRate number).message

def Found.serial (found : Found) : SerialConfig := { rate := found.lineRate.getD Rate.initial }

def Found.probe (found : Found) : Probe :=
  let default : Probe := {}
  { target := found.targetRate.getD default.target,
    attempts := found.attempts.getD default.attempts }

def Found.tool (found : Found) : ToolConfig := { serial := found.serial, probe := found.probe }

end Config

def Rate.ofText (text : String) : Except Config.Fault Rate := do
  let found ← Config.Reader.read .lineRate text
  match found.lineRate with
  | some rate => return rate
  | none => throw .malformed

def SerialConfig.ofText (text : String) : Except Config.Fault SerialConfig := do
  return (← Config.Reader.read (.group .serial) text).serial

def Probe.ofText (text : String) : Except Config.Fault Probe := do
  return (← Config.Reader.read (.group .probe) text).probe

def ToolConfig.ofText (text : String) : Except Config.Fault ToolConfig := do
  return (← Config.Reader.read (.group .tool) text).tool

end MeterBus
