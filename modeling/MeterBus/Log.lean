/-!
# The log

What the library has to say while it works, as values. An operation always returns all of its
entries; a threshold then decides which of them are kept.

* `Log.Severity`, `Log.Entry`: one remark and how much it matters.
* `Log.Threshold`: off, or the least severity that is kept.
* `Log.kept`: the entries that pass a threshold, in order.
* `Log.Call`, `Log.written`: the calls a program makes to its log and what becomes of them.
-/

namespace MeterBus.Log
set_option autoImplicit false

/-! ## Entries -/

inductive Severity where
  | error
  | warn
  | info
  | debug
  | trace
  deriving DecidableEq, Repr

/-- Position in the order from the gravest to the slightest. -/
def Severity.rank : Severity → Nat
  | error => 1
  | warn => 2
  | info => 3
  | debug => 4
  | trace => 5

def Severity.name : Severity → String
  | error => "ERROR"
  | warn => "WARN"
  | info => "INFO"
  | debug => "DEBUG"
  | trace => "TRACE"

structure Entry where
  severity : Severity
  text : String
  deriving DecidableEq, Repr

def Entry.line (entry : Entry) : String := entry.severity.name ++ " " ++ entry.text

/-! ## Thresholds -/

/-- Nothing is kept, or everything that matters at least as much as the given severity. -/
abbrev Threshold := Option Severity

def Threshold.admits : Threshold → Severity → Bool
  | none, _ => false
  | some least, severity => severity.rank ≤ least.rank

/-- The remarks that pass a threshold. -/
def kept (threshold : Threshold) (entries : List Entry) : List Entry :=
  entries.filter fun entry => Threshold.admits threshold entry.severity

/-! ## Calls -/

/-- A call to the log: a remark, or the wish to install a threshold. -/
inductive Call where
  | remark (entry : Entry)
  | install (threshold : Threshold)
  deriving DecidableEq, Repr

/-- The threshold in force after a call. The first one installed stays. -/
def Call.inForce (installed : Option Threshold) : Call → Option Threshold
  | remark _ => installed
  | install threshold => installed.or (some threshold)

/-- The entries written by a series of calls, from the threshold installed before them. -/
def written : Option Threshold → List Call → List Entry
  | _, [] => []
  | installed, call :: rest =>
    let entries := match call with
      | .remark entry => kept (installed.getD none) [entry]
      | .install _ => []
    entries ++ written (call.inForce installed) rest

end MeterBus.Log
