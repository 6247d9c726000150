import MeterBus.Refusal
import MeterBus.Tool

/-!
# The command line

Reads the arguments and the configuration file, opens the device, and prints the report or the
fault. Exit codes: 0 for a report or for help, 1 for a fault, 2 for arguments that are refused.
-/

namespace MeterBus.CommandLine
set_option autoImplicit false

def help : String := String.intercalate "\n"
  ["Request data from an M-Bus meter that answers at a higher baud rate",
   "",
   "Usage: mbus-serial-request-data [OPTIONS] <DEVICE> <ADDRESS>",
   "",
   "Arguments:",
   "  <DEVICE>   Serial device, e.g. /dev/ttyUSB0",
   "  <ADDRESS>  Primary address of the meter",
   "",
   "Options:",
   "  -d, --debug                              Dump every frame sent and received",
   "  -b, --baudrate <BAUDRATE>                Baud rate the request is sent at",
   "      --target-baudrate <TARGET_BAUDRATE>  Baud rate the meter answers at",
   "      --attempts <ATTEMPTS>                Receive attempts after the request",
   "      --config <CONFIG>                    JSON file with serial and probe sections",
   "  -h, --help                               Print help"]

/-- The wording of a refusal. -/
def refusalText : UsageFault → String
  | .helpWanted => help
  | .missingArgument => "error: the device and the address are required"
  | .unknownArgument => "error: unexpected argument"
  | .badNumber => "error: invalid number"
  | .missingValue => "error: a value is required"
  | .repeated => "error: the argument cannot be used multiple times"
  | .unneededValue => "error: unexpected value"

/-- The refusal behind an error of the operating system. -/
def refusalOf : IO.Error → Option Refusal
  | .noFileOrDirectory _ number _ | .inappropriateType _ number _
  | .invalidArgument _ number _ | .permissionDenied _ number _ => Refusal.ofNumber? number.toNat
  | .userError _ => some .notText
  | _ => none

def readText (path : String) : IO (Except String String) := do
  try
    return .ok (← IO.FS.readFile path)
  catch e =>
    return .error ((refusalOf e).elim (toString e) Refusal.inReading)

/-- The adapter behind a device path. No terminal can be driven from here, so it refuses to be
opened. -/
def deviceAdapter (path : String) : IO Adapter := do
  try
    let _ ← IO.FS.Handle.mk path .readWrite
    return { refusesOpen := some Refusal.notTerminal.fault }
  catch e =>
    return { refusesOpen := some ((refusalOf e).elim ⟨.other, toString e⟩ Refusal.fault) }

/-- Runs the tool on arguments that were accepted. -/
def serve (arguments : Arguments) : IO UInt32 := do
  let text ← match arguments.config with
    | none => pure (.ok "")
    | some path => readText path
  let outcome := Tool.run (fun _ => text) arguments (← deviceAdapter arguments.device)
  let threshold : Log.Threshold := some (if arguments.debug then .debug else .warn)
  for entry in Log.kept threshold (outcome.notes.filterMap Note.entry?) do
    IO.eprintln entry.line
  match outcome.result with
  | .ok lines =>
    for line in lines do IO.println line
    return 0
  | .error fault =>
    IO.eprintln fault.message
    return 1

end MeterBus.CommandLine

open MeterBus in
def main (words : List String) : IO UInt32 := do
  match Arguments.ofWords words with
  | .ok arguments => CommandLine.serve arguments
  | .error .helpWanted =>
    IO.println CommandLine.help
    return 0
  | .error fault =>
    IO.eprintln (CommandLine.refusalText fault)
    return 2
