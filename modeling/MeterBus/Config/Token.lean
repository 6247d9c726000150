/-!
# Tokens of configuration text

Configuration text is JSON. The scanner walks over its characters once, from left to right, with no
look-ahead: each character moves it to a new state and completes at most two tokens. A numeral is
complete when a character that cannot continue it arrives.

* `Token`: brackets, marks, strings, numbers, words, and `junk` for what is none of them.
* `Numeral`, `Quoted`: the states inside a number and inside a string.
* `Scan`, `Scan.step`, `Scan.finish`: the scanner.
* `Token.scan`: all tokens of a text.
-/

namespace MeterBus.Config
set_option autoImplicit false

inductive Token where
  | openBrace
  | closeBrace
  | openBracket
  | closeBracket
  | colon
  | comma
  /-- A string; no content if one of its escapes is half of a surrogate pair. -/
  | text (content : Option String)
  /-- A number without sign, fraction and exponent. -/
  | integer (value : Nat)
  /-- Any other number. -/
  | number
  /-- One of `true`, `false` and `null`. -/
  | word
  /-- Characters that begin no token, or begin one and do not complete it. -/
  | junk
  deriving DecidableEq, Repr

/-! ## Numbers -/

/-- How far a number has been read. -/
inductive Numeral where
  /-- A minus sign, a digit to come. -/
  | sign
  /-- A single zero in front. -/
  | zero (negative : Bool)
  | digits (negative : Bool) (value : Nat)
  /-- A decimal point, a digit to come. -/
  | point
  | fraction
  /-- The mark of an exponent, a sign or a digit to come. -/
  | exponent
  /-- The sign of an exponent, a digit to come. -/
  | exponentSign
  | power
  /-- A digit behind a zero in front. -/
  | broken
  deriving DecidableEq, Repr

namespace Numeral

def digit? (c : Char) : Option Nat := if c.isDigit then some (c.toNat - '0'.toNat) else none

/-- Behind the whole part: a point, an exponent, or the end. -/
def afterWhole (c : Char) : Option Numeral :=
  if c = '.' then some point else if c = 'e' ∨ c = 'E' then some exponent else none

def extend (numeral : Numeral) (c : Char) : Option Numeral :=
  match numeral with
  | sign => (digit? c).map fun d => if d = 0 then zero true else digits true d
  | zero _ => if c.isDigit then some broken else afterWhole c
  | digits negative value =>
    match digit? c with
    | some d => some (digits negative (10 * value + d))
    | none => afterWhole c
  | point => if c.isDigit then some fraction else none
  | fraction =>
    if c.isDigit then some fraction else if c = 'e' ∨ c = 'E' then some exponent else none
  | exponent =>
    if c.isDigit then some power else if c = '+' ∨ c = '-' then some exponentSign else none
  | exponentSign | power => if c.isDigit then some power else none
  | broken => none

def token : Numeral → Token
  | zero negative => if negative then .number else .integer 0
  | digits negative value => if negative then .number else .integer value
  | fraction | power => .number
  | sign | point | exponent | exponentSign | broken => .junk

end Numeral

/-! ## Strings -/

/-- The part of a string read so far: its characters, the latest first, a high surrogate that waits
for its low half, and whether every surrogate so far was paired. -/
structure Quoted where
  content : List Char := []
  high : Option Nat := none
  sound : Bool := true
  deriving DecidableEq, Repr

/-- Where in a string the scanner is. -/
inductive Escape where
  | plain
  /-- Behind a backslash. -/
  | escaped
  /-- Inside a code unit of four hexadecimal digits, so many of them to come. -/
  | unit (left value : Nat)
  deriving DecidableEq, Repr

namespace Quoted

/-- The string with one more character. -/
def put (quoted : Quoted) (c : Char) : Quoted :=
  { content := c :: quoted.content, high := none, sound := quoted.sound && quoted.high.isNone }

/-- The string with one more code unit. Two halves of a surrogate pair make one character. -/
def putUnit (quoted : Quoted) (unit : Nat) : Quoted :=
  if 0xD800 ≤ unit ∧ unit < 0xDC00 then
    { quoted with high := some unit, sound := quoted.sound && quoted.high.isNone }
  else if 0xDC00 ≤ unit ∧ unit < 0xE000 then
    match quoted.high with
    | some high =>
      let joined := Char.ofNat (0x10000 + 0x400 * (high - 0xD800) + (unit - 0xDC00))
      { quoted with content := joined :: quoted.content, high := none }
    | none => { quoted with sound := false }
  else quoted.put (Char.ofNat unit)

def token (quoted : Quoted) : Token :=
  if quoted.sound && quoted.high.isNone then .text (some (String.ofList quoted.content.reverse))
  else .text none

/-- The character that a one-letter escape stands for. -/
def escape? (c : Char) : Option Char :=
  if c = '"' ∨ c = '\\' ∨ c = '/' then some c
  else if c = 'b' then some '\x08'
  else if c = 'f' then some '\x0c'
  else if c = 'n' then some '\n'
  else if c = 'r' then some '\r'
  else if c = 't' then some '\t'
  else none

/-- The value of a hexadecimal digit of either case. -/
def hexValue? (c : Char) : Option Nat :=
  if c.isDigit then some (c.toNat - '0'.toNat)
  else if 'a' ≤ c ∧ c ≤ 'f' then some (c.toNat - 'a'.toNat + 10)
  else if 'A' ≤ c ∧ c ≤ 'F' then some (c.toNat - 'A'.toNat + 10)
  else none

end Quoted

/-! ## The scanner -/

inductive Scan where
  | between
  /-- Inside a word, with these letters to come. -/
  | word (first : Char) (rest : List Char)
  | numeral (numeral : Numeral)
  | quoted (quoted : Quoted) (escape : Escape)
  deriving DecidableEq, Repr

namespace Scan

/-- The blanks between tokens: space, tab, line feed, carriage return. -/
def isBlank (c : Char) : Bool := c = ' ' || c = '\t' || c = '\n' || c = '\r'

/-- The first character of a token, or a blank. -/
def begin (c : Char) : Scan × List Token :=
  if isBlank c then (between, [])
  else if c = '\x7b' then (between, [.openBrace])
  else if c = '\x7d' then (between, [.closeBrace])
  else if c = '[' then (between, [.openBracket])
  else if c = ']' then (between, [.closeBracket])
  else if c = ':' then (between, [.colon])
  else if c = ',' then (between, [.comma])
  else if c = '"' then (quoted {} .plain, [])
  else if c = '-' then (numeral .sign, [])
  else if c = 't' then (word 'r' ['u', 'e'], [])
  else if c = 'f' then (word 'a' ['l', 's', 'e'], [])
  else if c = 'n' then (word 'u' ['l', 'l'], [])
  else match Numeral.digit? c with
    | some d => (numeral (if d = 0 then .zero false else .digits false d), [])
    | none => (between, [.junk])

/-- One more character inside a string. -/
def stepQuoted (string : Quoted) (escape : Escape) (c : Char) : Scan × List Token :=
  match escape with
  | .plain =>
    if c = '"' then (between, [string.token])
    else if c = '\\' then (quoted string .escaped, [])
    else if c < ' ' then (between, [.junk])
    else (quoted (string.put c) .plain, [])
  | .escaped =>
    if c = 'u' then (quoted string (.unit 4 0), [])
    else match Quoted.escape? c with
      | some character => (quoted (string.put character) .plain, [])
      | none => (between, [.junk])
  | .unit left value =>
    match Quoted.hexValue? c with
    | some d =>
      let value := 16 * value + d
      if left ≤ 1 then (quoted (string.putUnit value) .plain, [])
      else (quoted string (.unit (left - 1) value), [])
    | none => (between, [.junk])

/-- One more character: where the scanner is behind it and the tokens it completes. -/
def step (scan : Scan) (c : Char) : Scan × List Token :=
  match scan with
  | between => begin c
  | word first rest =>
    if c = first then
      match rest with
      | [] => (between, [.word])
      | next :: rest => (word next rest, [])
    else (between, [.junk])
  | numeral n =>
    match n.extend c with
    | some n => (numeral n, [])
    | none =>
      let (next, tokens) := begin c
      (next, n.token :: tokens)
  | quoted string escape => stepQuoted string escape c

def finish : Scan → List Token
  | between => []
  | numeral n => [n.token]
  | word _ _ | quoted _ _ => [.junk]

def tokens (scan : Scan) : List Char → List Token
  | [] => scan.finish
  | c :: rest => (scan.step c).2 ++ (scan.step c).1.tokens rest

end Scan

def Token.scan (text : String) : List Token := Scan.between.tokens text.toList

end MeterBus.Config
