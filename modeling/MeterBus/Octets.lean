/-!
# Octets

What travels on the bus, and how it is written down for people.

* `Octets`: a run of bytes, first byte first.
* `Octets.total`: their sum modulo 256, the only arithmetic a frame checksum uses.
* `Octets.hex`: two upper-case hexadecimal digits per byte.
* `Octets.ofText`, `Octets.text?`, `Octets.pairs`: a text as its bytes, bytes as a text, and bytes
  two by two.
* `Octets.decimal`: the bytes as a bracketed list of decimal numbers.
-/

namespace MeterBus
set_option autoImplicit false

/-- A run of bytes in the order in which they travel. -/
abbrev Octets := List UInt8

namespace Octets

/-! ## Arithmetic -/

/-- The sum of all bytes modulo 256. -/
def total (bytes : Octets) : UInt8 := bytes.foldl (fun sum byte => sum + byte) 0

/-! ## Text -/

/-- The upper-case hexadecimal digit of a number below sixteen. -/
def hexDigit (n : Nat) : Char :=
  ['0', '1', '2', '3', '4', '5', '6', '7', '8', '9', 'A', 'B', 'C', 'D', 'E', 'F'].getD n '0'

/-- One byte as two hexadecimal digits, the high half first. -/
def hexPair (byte : UInt8) : List Char :=
  [hexDigit (byte.toNat / 16), hexDigit (byte.toNat % 16)]

/-- All bytes in hexadecimal, nothing between them. -/
def hex (bytes : Octets) : String := String.ofList (bytes.flatMap hexPair)

/-- The bytes of a text in UTF-8. -/
def ofText (text : String) : Octets := text.toUTF8.data.toList

/-- The text that the bytes are in UTF-8, if they are one. -/
def text? (bytes : Octets) : Option String := String.fromUTF8? bytes.toByteArray

/-- The bytes two by two. A last one without a partner stands alone. -/
def pairs : Octets → List Octets
  | [] => []
  | [last] => [[last]]
  | first :: second :: rest => [first, second] :: pairs rest

/-- All bytes as decimal numbers in brackets, with a comma and a space between them. -/
def decimal (bytes : Octets) : String :=
  "[" ++ String.intercalate ", " (bytes.map fun byte => toString byte.toNat) ++ "]"

end Octets

end MeterBus
