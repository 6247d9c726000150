/-!
# Baud rates

The rates a line can be driven at. Each rate fixes how long a silent read lasts, so the two can
never disagree.

* `Rate`, `Rate.number`, `Rate.ofNumber?`: the rates and their numbers.
* `Rate.quantum`, `Rate.timeout`: the length of a silent read, in tenths of a second and in
  milliseconds.
-/

namespace MeterBus
set_option autoImplicit false

inductive Rate where
  | baud300
  | baud1200
  | baud2400
  | baud9600
  deriving DecidableEq, Repr

namespace Rate

def all : List Rate := [baud300, baud1200, baud2400, baud9600]

/-- The rate of a freshly opened line. -/
def initial : Rate := baud2400

/-- Bits per second. -/
def number : Rate → Nat
  | baud300 => 300
  | baud1200 => 1200
  | baud2400 => 2400
  | baud9600 => 9600

/-- The rate of so many bits per second, if a line can be driven at it. -/
def ofNumber? (n : Nat) : Option Rate := all.find? fun rate => rate.number == n

/-- Tenths of a second that a read waits for the first byte. -/
def quantum : Rate → Nat
  | baud300 => 12
  | baud1200 => 4
  | baud2400 => 2
  | baud9600 => 1

/-- Milliseconds that a read waits for the first byte. -/
def timeout (rate : Rate) : Nat := rate.quantum * 100

def text (rate : Rate) : String := toString rate.number

/-- The timeout in milliseconds below one second, else in seconds with one place where it is
needed. -/
def timeoutText (rate : Rate) : String :=
  if rate.quantum < 10 then toString rate.timeout ++ "ms"
  else if rate.quantum % 10 = 0 then toString (rate.quantum / 10) ++ "s"
  else toString (rate.quantum / 10) ++ "." ++ toString (rate.quantum % 10) ++ "s"

end Rate

end MeterBus
