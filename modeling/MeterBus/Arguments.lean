/-!
# Command line arguments

The words of the command line, read one by one. Options may stand anywhere; a word that is no
option is the device first and the address second; behind a lone double dash every word is one of
these. The value of an option or position is looked at only when the next one begins, so of two
wrong words the later one can be reported first.

* `Arguments`: what the words say.
* `UsageFault`: why they are refused.
* `Slot`, `Reading`: the places a value can go to, and the state of the reading.
* `Arguments.ofWords`: all words.
-/

namespace MeterBus
set_option autoImplicit false

/-- What the words of the command line say. -/
structure Arguments where
  debug : Bool
  baudrate : Option Nat
  targetBaudrate : Option Nat
  attempts : Option Nat
  config : Option String
  device : String
  address : UInt8
  deriving DecidableEq, Repr

/-- Why the words are refused, or that help is wanted instead. -/
inductive UsageFault where
  | helpWanted
  /-- The device or the address is missing. -/
  | missingArgument
  /-- An option that does not exist, or a word too many. -/
  | unknownArgument
  /-- A value that is no number in range. -/
  | badNumber
  /-- An option without the value it needs, or an empty path. -/
  | missingValue
  | repeated
  /-- A value for an option that takes none. -/
  | unneededValue
  deriving DecidableEq, Repr

namespace Arguments

/-! ## Numbers -/

/-- The value of a run of decimal digits, if it is one. -/
def digits? (chars : List Char) : Option Nat :=
  if chars.isEmpty || chars.any (fun c => !c.isDigit) then none
  else some (chars.foldl (fun n c => 10 * n + (c.toNat - '0'.toNat)) 0)

/-- Digits behind an optional plus sign. -/
def unsigned? (word : String) : Option Nat :=
  match word.toList with
  | '+' :: rest => digits? rest
  | chars => digits? chars

/-- Digits behind an optional sign. Behind a minus sign only zero is a number that counts
something. -/
def signed? (word : String) : Option Nat :=
  match word.toList with
  | '-' :: rest => (digits? rest).filter fun n => n == 0
  | _ => unsigned? word

/-- A number below a bound. -/
def below (bound : Nat) (number : Option Nat) : Except UsageFault Nat :=
  match number with
  | some n => if n < bound then .ok n else .error .badNumber
  | none => .error .badNumber

/-! ## Values -/

inductive Slot where
  | baudrate
  | targetBaudrate
  | attempts
  | config
  | device
  | address
  deriving DecidableEq, Repr

structure Reading where
  debug : Bool := false
  baudrate : Option Nat := none
  targetBaudrate : Option Nat := none
  attempts : Option Nat := none
  config : Option String := none
  device : Option String := none
  address : Option UInt8 := none
  /-- How many words were neither options nor their values. -/
  positions : Nat := 0
  /-- The place that is being filled, and its value once there is one. -/
  pending : Option (Slot × Option String) := none
  /-- Whether a lone double dash has been seen. -/
  literal : Bool := false
  deriving DecidableEq, Repr

namespace Reading

def has (reading : Reading) : Slot → Bool
  | .baudrate => reading.baudrate.isSome
  | .targetBaudrate => reading.targetBaudrate.isSome
  | .attempts => reading.attempts.isSome
  | .config => reading.config.isSome
  | .device => reading.device.isSome
  | .address => reading.address.isSome

def fill (reading : Reading) (slot : Slot) (value : String) : Except UsageFault Reading :=
  if reading.has slot then .error .repeated
  else match slot with
    | .baudrate => do return { reading with baudrate := some (← below UInt32.size (signed? value)) }
    | .targetBaudrate => do
      return { reading with targetBaudrate := some (← below UInt32.size (signed? value)) }
    | .attempts => do
      return { reading with attempts := some (← below UInt64.size (unsigned? value)) }
    | .config =>
      if value = "" then .error .missingValue else .ok { reading with config := some value }
    | .device => .ok { reading with device := some value }
    | .address => do
      return { reading with address := some (← below 256 (signed? value)).toUInt8 }

/-- Looks at the value that has been waiting. -/
def settle (reading : Reading) : Except UsageFault Reading :=
  match reading.pending with
  | none => .ok reading
  | some (_, none) => .error .missingValue
  | some (slot, some value) => { reading with pending := none }.fill slot value

/-! ## Options -/

def switchDebug (reading : Reading) : Except UsageFault Reading := do
  let reading ← reading.settle
  if reading.debug then throw .repeated else return { reading with debug := true }

def help (reading : Reading) : Except UsageFault Reading := do
  let _ ← reading.settle
  throw .helpWanted

/-- An option with a value, attached to it or to come. -/
def option (reading : Reading) (slot : Slot) (attached : Option String) :
    Except UsageFault Reading := do
  let reading ← reading.settle
  match attached with
  | some value => reading.fill slot value
  | none => return { reading with pending := some (slot, none) }

def long (reading : Reading) (name : String) (attached : Option String) :
    Except UsageFault Reading :=
  match name with
  | "baudrate" => reading.option .baudrate attached
  | "target-baudrate" => reading.option .targetBaudrate attached
  | "attempts" => reading.option .attempts attached
  | "config" => reading.option .config attached
  | "debug" => if attached.isSome then .error .unneededValue else reading.switchDebug
  | "help" => if attached.isSome then .error .unneededValue else reading.help
  | _ => .error .unknownArgument

/-- A run of one-letter options. One that takes a value takes the rest of the run. -/
def short (reading : Reading) : List Char → Except UsageFault Reading
  | [] => .ok reading
  | c :: rest =>
    if c = 'd' then do
      let reading ← reading.switchDebug
      reading.short rest
    else if c = 'h' then reading.help
    else if c = 'b' then
      match rest with
      | [] => reading.option .baudrate none
      | '=' :: value => reading.option .baudrate (some (String.ofList value))
      | value => reading.option .baudrate (some (String.ofList value))
    else .error .unknownArgument

/-! ## Words -/

/-- A word that is neither an option nor the value of one. -/
def position (reading : Reading) (word : String) : Except UsageFault Reading :=
  let place (slot : Slot) : Except UsageFault Reading := do
    let reading ← reading.settle
    return { reading with
      positions := reading.positions + 1, pending := some (slot, some word) }
  match reading.positions with
  | 0 => place .device
  | 1 => place .address
  | _ => .error .unknownArgument

/-- A word that may be the value an option waits for. -/
def plain (reading : Reading) (word : String) : Except UsageFault Reading :=
  match reading.pending with
  | some (slot, none) => .ok { reading with pending := some (slot, some word) }
  | _ => reading.position word

def word (reading : Reading) (word : String) : Except UsageFault Reading :=
  if reading.literal then reading.position word
  else match word.toList with
    | ['-', '-'] => .ok { reading with literal := true }
    | '-' :: '-' :: rest =>
      let name := rest.takeWhile fun c => c != '='
      let attached := (rest.drop (name.length + 1))
      reading.long (String.ofList name)
        (if name.length < rest.length then some (String.ofList attached) else none)
    | ['-'] => reading.plain word
    | '-' :: run => reading.short run
    | _ => reading.plain word

/-- What the words say, once the last value has been looked at. -/
def finish (reading : Reading) : Except UsageFault Arguments := do
  let reading ← reading.settle
  match reading.device, reading.address with
  | some device, some address =>
    return { debug := reading.debug, baudrate := reading.baudrate,
             targetBaudrate := reading.targetBaudrate, attempts := reading.attempts,
             config := reading.config, device, address }
  | _, _ => throw .missingArgument

end Reading

def ofWords (words : List String) : Except UsageFault Arguments := do
  let reading ← words.foldlM Reading.word {}
  reading.finish

end Arguments

end MeterBus
