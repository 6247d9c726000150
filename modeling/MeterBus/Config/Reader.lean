import MeterBus.Config.Token
import MeterBus.Rate

/-!
# Reading configuration text

The reader takes tokens one by one and keeps what it has found. It knows at every moment what may
stand next, so it objects to the first token that is wrong and to nothing behind it: an unsupported
rate is reported whatever follows.

A group of settings is an object whose members come in any order, or an array of their values in the
order of `Group.members`. Members of other names may hold anything. What is absent is not found.

* `Place`, `Group`: what may stand where.
* `Reader`, `Reader.step`: the state and its transitions.
* `Reader.read`: a whole text.
-/

namespace MeterBus.Config
set_option autoImplicit false

/-! ## Places -/

inductive Group where
  | tool
  | serial
  | probe
  deriving DecidableEq, Repr

/-- What is expected of a value. -/
inductive Place where
  | lineRate
  /-- The rate a probed meter answers at. -/
  | targetRate
  | attempts
  | group (group : Group)
  /-- Nothing: the value is skipped. -/
  | anything
  deriving DecidableEq, Repr

/-- The members of a group by name, in the order of their array form. -/
def Group.members : Group → List (String × Place)
  | tool => [("serial", .group serial), ("probe", .group probe)]
  | serial => [("baudrate", .lineRate)]
  | probe => [("target_baudrate", .targetRate), ("attempts", .attempts)]

structure Found where
  lineRate : Option Rate := none
  targetRate : Option Rate := none
  attempts : Option Nat := none
  deriving DecidableEq, Repr

inductive Fault where
  /-- It is not the text of such a configuration. -/
  | malformed
  /-- It holds a number that is no rate where a rate belongs. -/
  | unsupportedRate (number : Nat)
  deriving DecidableEq, Repr

/-! ## The reader -/

/-- An array or object that is still open. -/
inductive Nest where
  /-- The names of the members seen so far, if it is a group. -/
  | object (group : Option Group) (seen : List String)
  /-- What is expected of the values to come, if it is a group. -/
  | array (rest : Option (List Place))
  deriving DecidableEq, Repr

inductive Await where
  | value (place : Place)
  /-- Behind an opening brace: a member or the end. -/
  | firstMember
  /-- Behind a comma in an object: a member. -/
  | member
  | colon (place : Place)
  /-- Behind an opening bracket: a value or the end. -/
  | firstItem
  /-- Behind a value: a comma or the end of what encloses it. -/
  | delimiter
  deriving DecidableEq, Repr

structure Reader where
  found : Found := {}
  /-- What is open, the innermost first. -/
  nest : List Nest := []
  await : Await
  deriving DecidableEq, Repr

namespace Reader

/-- Behind a value. -/
def passed (reader : Reader) : Except Fault Reader := .ok { reader with await := .delimiter }

/-- Closes what is innermost. -/
def leave (reader : Reader) : Except Fault Reader :=
  .ok { reader with nest := reader.nest.drop 1, await := .delimiter }

def rate (number : Nat) : Except Fault Rate :=
  if number < UInt32.size then
    match Rate.ofNumber? number with
    | some rate => .ok rate
    | none => .error (.unsupportedRate number)
  else .error .malformed

/-- A token where a value of this kind has to begin. -/
def value (reader : Reader) : Place → Token → Except Fault Reader
  | .lineRate, .integer number => do
    let rate ← rate number
    passed { reader with found := { reader.found with lineRate := some rate } }
  | .targetRate, .integer number => do
    let rate ← rate number
    passed { reader with found := { reader.found with targetRate := some rate } }
  | .attempts, .integer number =>
    if number < UInt64.size then
      passed { reader with found := { reader.found with attempts := some number } }
    else .error .malformed
  | .group group, .openBrace =>
    .ok { reader with nest := .object (some group) [] :: reader.nest, await := .firstMember }
  | .group group, .openBracket =>
    let places := group.members.map (·.2)
    .ok { reader with nest := .array (some places) :: reader.nest, await := .firstItem }
  | .anything, .openBrace =>
    .ok { reader with nest := .object none [] :: reader.nest, await := .firstMember }
  | .anything, .openBracket =>
    .ok { reader with nest := .array none :: reader.nest, await := .firstItem }
  | .anything, .text _ | .anything, .integer _ | .anything, .number | .anything, .word =>
    reader.passed
  | _, _ => .error .malformed

/-- The name of a member. A group takes each of its members once and skips unknown ones. -/
def name (reader : Reader) (content : Option String) : Except Fault Reader :=
  match reader.nest, content with
  | .object none _ :: _, _ => .ok { reader with await := .colon .anything }
  | .object (some group) seen :: nest, some name =>
    match group.members.lookup name with
    | none => .ok { reader with await := .colon .anything }
    | some place =>
      if seen.contains name then .error .malformed
      else .ok { reader with
        nest := .object (some group) (name :: seen) :: nest, await := .colon place }
  | _, _ => .error .malformed

/-- What the next value of the innermost array has to be. -/
def item (reader : Reader) : Except Fault (Reader × Place) :=
  match reader.nest with
  | .array none :: _ => .ok (reader, .anything)
  | .array (some (place :: rest)) :: nest =>
    .ok ({ reader with nest := .array (some rest) :: nest }, place)
  | _ => .error .malformed

/-- A token behind a value. -/
def delimiter (reader : Reader) (token : Token) : Except Fault Reader :=
  match reader.nest, token with
  | .object _ _ :: _, .comma => .ok { reader with await := .member }
  | .object _ _ :: _, .closeBrace => reader.leave
  | .array _ :: _, .comma => do
    let (reader, place) ← reader.item
    return { reader with await := .value place }
  | .array _ :: _, .closeBracket => reader.leave
  | _, _ => .error .malformed

/-- The reader behind one more token, or its objection to that token. -/
def step (reader : Reader) (token : Token) : Except Fault Reader :=
  match reader.await, token with
  | .value place, token => reader.value place token
  | .firstMember, .closeBrace => reader.leave
  | .firstMember, .text content | .member, .text content => reader.name content
  | .colon place, .colon => .ok { reader with await := .value place }
  | .firstItem, .closeBracket => reader.leave
  | .firstItem, token => do
    let (reader, place) ← reader.item
    reader.value place token
  | .delimiter, token => reader.delimiter token
  | _, _ => .error .malformed

/-- What was found, once everything is closed. -/
def settle (reader : Reader) : Except Fault Found :=
  match reader.await, reader.nest with
  | .delimiter, [] => .ok reader.found
  | _, _ => .error .malformed

/-- What a text holds that has to be a value of this kind. -/
def read (place : Place) (text : String) : Except Fault Found := do
  let reader ← (Token.scan text).foldlM step { await := .value place }
  reader.settle

end Reader

end MeterBus.Config
