import MeterBus.Config.Token

/-! # Tokens and their spellings

A text spells its tokens one after the other, with blanks before and between them. Only brackets,
marks, words and integers have one spelling each: a character of a string may stand for itself, be
named by a letter behind a backslash, or be given by its UTF-16 code units.

* `Piece`, `joined`: strings as they are written and as they are meant.
* `Token.Spelled`: the spellings of a token.
* `Laid`: the texts of a list of tokens.
-/
namespace MeterBus.Config
set_option autoImplicit false

/-! ## Strings -/

/-- A piece of a string: a character, or a UTF-16 code unit given by its number. -/
inductive Piece where
  | char (c : Char)
  | unit (value : Nat)

/-- The first half of a surrogate pair. -/
def IsHigh (unit : Nat) : Prop := 0xD800 ≤ unit ∧ unit < 0xDC00
  deriving Decidable

/-- The second half of a surrogate pair. -/
def IsLow (unit : Nat) : Prop := 0xDC00 ≤ unit ∧ unit < 0xE000
  deriving Decidable

/-- The characters that the pieces stand for, unless half of a surrogate pair is on its own. -/
def joined : List Piece → Option (List Char)
  | [] => some []
  | .char c :: rest => (joined rest).map (c :: ·)
  | .unit unit :: rest =>
    if IsHigh unit then
      match rest with
      | .unit low :: rest =>
        if IsLow low then
          (joined rest).map (Char.ofNat (0x10000 + 0x400 * (unit - 0xD800) + (low - 0xDC00)) :: ·)
        else none
      | _ => none
    else if IsLow unit then none
    else (joined rest).map (Char.ofNat unit :: ·)

/-- A hexadecimal digit of either case and its value. -/
structure Hex (c : Char) (value : Nat) : Prop where
  small : value < 16
  digit : c = value.digitChar ∨ c = value.digitChar.toUpper

/-- The letters that name a character behind a backslash. -/
def shorthands : List (Char × Char) :=
  [('"', '"'), ('\\', '\\'), ('/', '/'), ('b', '\x08'), ('f', '\x0c'), ('n', '\n'), ('r', '\r'),
    ('t', '\t')]

/-- How a piece is written inside quotation marks. -/
inductive Piece.Spelled : Piece → List Char → Prop
  | plain {c : Char} (printable : ' ' ≤ c) (quote : c ≠ '"') (backslash : c ≠ '\\') :
    Spelled (.char c) [c]
  | named {letter c : Char} (known : (letter, c) ∈ shorthands) : Spelled (.char c) ['\\', letter]
  | unit {a b c d : Char} {i j k l : Nat} (first : Hex a i) (second : Hex b j) (third : Hex c k)
    (fourth : Hex d l) :
    Spelled (.unit (16 * (16 * (16 * i + j) + k) + l)) ['\\', 'u', a, b, c, d]

/-- The pieces of a string one after the other. -/
inductive Pieces : List Piece → List Char → Prop
  | nil : Pieces [] []
  | cons {piece : Piece} {pieces : List Piece} {chars rest : List Char}
    (first : piece.Spelled chars) (later : Pieces pieces rest) :
    Pieces (piece :: pieces) (chars ++ rest)

/-! ## Numbers -/

def Digits (chars : List Char) : Prop := chars ≠ [] ∧ ∀ c ∈ chars, c.isDigit = true

inductive Fraction : List Char → Prop
  | absent : Fraction []
  | present {digits : List Char} (some : Digits digits) : Fraction ('.' :: digits)

inductive Exponent : List Char → Prop
  | absent : Exponent []
  | present {mark : Char} {sign digits : List Char} (marked : mark ∈ ['e', 'E'])
    (signed : sign ∈ [[], ['+'], ['-']]) (some : Digits digits) :
    Exponent (mark :: (sign ++ digits))

/-! ## Tokens -/

inductive Token.Spelled : Token → List Char → Prop
  | openBrace : Spelled .openBrace ['\x7b']
  | closeBrace : Spelled .closeBrace ['\x7d']
  | openBracket : Spelled .openBracket ['[']
  | closeBracket : Spelled .closeBracket [']']
  | colon : Spelled .colon [':']
  | comma : Spelled .comma [',']
  | word {letters : String} (known : letters ∈ ["true", "false", "null"]) :
    Spelled .word letters.toList
  | integer (value : Nat) : Spelled (.integer value) (Nat.toDigits 10 value)
  | number {sign fraction exponent : List Char} (whole : Nat) (signed : sign ∈ [[], ['-']])
    (behind : Fraction fraction) (power : Exponent exponent)
    (other : sign ++ fraction ++ exponent ≠ []) :
    Spelled .number (sign ++ Nat.toDigits 10 whole ++ fraction ++ exponent)
  | text {pieces : List Piece} {chars : List Char} (spelled : Pieces pieces chars) :
    Spelled (.text ((joined pieces).map String.ofList)) ('"' :: (chars ++ ['"']))

def Blanks (chars : List Char) : Prop := ∀ c ∈ chars, c ∈ [' ', '\t', '\n', '\r']

/-- The texts that spell these tokens. -/
inductive Laid : List Token → List Char → Prop
  | done {blanks : List Char} (blank : Blanks blanks) : Laid [] blanks
  | token {token : Token} {tokens : List Token} {blanks chars rest : List Char}
    (blank : Blanks blanks) (spelled : token.Spelled chars) (later : Laid tokens rest) :
    Laid (token :: tokens) (blanks ++ chars ++ rest)

/-! ## Laying out -/

section Laying

variable {tokens more : List Token} {text rest : List Char}

theorem Laid.blank {blanks : List Char} (blank : Blanks blanks) (laid : Laid tokens text) :
    Laid tokens (blanks ++ text) := by
  have both (inner : List Char) (blank' : Blanks inner) : Blanks (blanks ++ inner) :=
    List.forall_mem_append.mpr ⟨blank, blank'⟩
  cases laid with
  | done blank' => exact .done (both _ blank')
  | token blank' spelled later =>
    rw [← List.append_assoc, ← List.append_assoc]
    exact .token (both _ blank') spelled later

theorem Laid.nil : Laid [] [] := .done nofun

theorem Laid.cons {token : Token} (spelled : token.Spelled text) (later : Laid tokens rest) :
    Laid (token :: tokens) (text ++ rest) :=
  .token (nofun : Blanks []) spelled later

theorem Laid.append (first : Laid tokens text) (second : Laid more rest) :
    Laid (tokens ++ more) (text ++ rest) := by
  induction first with
  | done blank => exact second.blank blank
  | token blank spelled later ih =>
    rw [List.append_assoc]
    exact .token blank spelled ih

/-- A character that can stand for itself in a string. -/
def isPlain (c : Char) : Bool := ' ' ≤ c && c != '"' && c != '\\'

theorem pieces_plain {chars : List Char} (plain : chars.all isPlain = true) :
    Pieces (chars.map .char) chars ∧ joined (chars.map .char) = some chars := by
  induction chars with
  | nil => exact ⟨.nil, rfl⟩
  | cons c chars ih =>
    simp only [List.all_cons, Bool.and_eq_true, isPlain, decide_eq_true_eq, bne_iff_ne] at plain
    obtain ⟨⟨⟨printable, quote⟩, backslash⟩, plain⟩ := plain
    obtain ⟨pieces, same⟩ := ih plain
    exact ⟨.cons (.plain printable quote backslash) pieces, by simp [joined, same]⟩

/-- A text without quotation marks, backslashes and control characters is its own spelling. -/
theorem spelled_plain {name : String} (plain : name.toList.all isPlain = true) :
    (Token.text (some name)).Spelled ('"' :: (name.toList ++ ['"'])) := by
  obtain ⟨pieces, same⟩ := pieces_plain plain
  have spelled := Token.Spelled.text pieces
  rwa [same, Option.map_some, String.ofList_toList] at spelled

end Laying

end MeterBus.Config
