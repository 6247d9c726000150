import MeterBus.Fault

/-!
# Refusals

Why an operating system does not open or read what stands at a path.

* `Refusal`: the reasons.
* `Refusal.fault`: the wording where the path was to be opened as a serial line.
* `Refusal.inReading`: the wording where the path was to be read as a text.
-/

namespace MeterBus
set_option autoImplicit false

inductive Refusal where
  | missing
  | notDirectory
  | isDirectory
  | notTerminal
  /-- The path, or a name along it, has more bytes than the host takes. -/
  | tooLong
  /-- The path holds a NUL, or the device does not know what it is asked for. -/
  | invalidArgument
  /-- The device has nothing behind it. -/
  | noDevice
  | denied
  /-- The path leads over more links than the host follows. -/
  | tooManyLinks
  /-- What is there cannot be read, though it can be opened. -/
  | unreadable
  /-- What is there is not UTF-8. -/
  | notText
  deriving DecidableEq, Repr

namespace Refusal

def text : Refusal → String
  | missing => "No such file or directory"
  | notDirectory => "Not a directory"
  | isDirectory => "Is a directory"
  | notTerminal => "Not a typewriter"
  | tooLong => "File name too long"
  | invalidArgument => "Invalid argument"
  | noDevice => "No such device or address"
  | denied => "Permission denied"
  | tooManyLinks => "Too many symbolic links encountered"
  | unreadable => "Input/output error"
  | notText => "stream did not contain valid UTF-8"

/-- The error number of the operating system, which does not ask whether bytes are text. -/
def number? : Refusal → Option Nat
  | missing => some 2
  | notDirectory => some 20
  | isDirectory => some 21
  | notTerminal => some 25
  | tooLong => some 36
  | invalidArgument => some 22
  | noDevice => some 6
  | denied => some 13
  | tooManyLinks => some 40
  | unreadable => some 5
  | notText => none

def all : List Refusal :=
  [missing, notDirectory, isDirectory, notTerminal, tooLong, invalidArgument, noDevice, denied,
    tooManyLinks, unreadable, notText]

def ofNumber? (n : Nat) : Option Refusal := all.find? fun refusal => refusal.number? == some n

/-- The description with the number behind it, if there is one. -/
def describe (description : String) (number? : Option Nat) : String :=
  number?.elim description fun number => description ++ " (os error " ++ toString number ++ ")"

/-- The refusal of a file that was to be read. An argument that is invalid there is a path with a
NUL, found before the operating system could give it a number. -/
def inReading : Refusal → String
  | invalidArgument => "file name contained an unexpected NUL byte"
  | tooManyLinks => describe "Too many levels of symbolic links" tooManyLinks.number?
  | refusal => describe refusal.text refusal.number?

/-- The kind of objection that the line makes of the refusal: only a path that leads nowhere and a
right that is missing have a kind of their own. -/
def kind : Refusal → IoFault.Kind
  | missing => .notFound
  | denied => .permissionDenied
  | _ => .other

def fault (refusal : Refusal) : IoFault := ⟨refusal.kind, refusal.text⟩

end Refusal

end MeterBus
