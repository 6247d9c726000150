import Mathlib.Data.List.Chain
import MeterBus.Proofs.Config.Spelling

/-! # The scanner against the spellings

The course of the scanner over each kind of spelling, for pieces of strings, parts of numbers and
whole tokens, and put together over a text.

* `Scan.Yields`: a course from one state to another and the tokens completed on it.
* `token_joined`: the surrogates of a string are paired as `joined` pairs them.
* `Laid.scan`: the scanner finds the tokens again, whatever the spellings and the blanks.
-/
namespace MeterBus.Config
set_option autoImplicit false

def Token.isNumeric : Token → Bool
  | .integer _ | .number => true
  | _ => false

/-- No two numbers stand side by side, where they could be mistaken for one. -/
def Loose (tokens : List Token) : Prop :=
  tokens.IsChain fun first second => ¬ (first.isNumeric = true ∧ second.isNumeric = true)

/-! ## Courses of the scanner -/

/-- Over these characters the scanner gets from one state to another and completes these tokens. -/
def Scan.Yields (scan : Scan) (chars : List Char) (tokens : List Token) (next : Scan) : Prop :=
  ∀ rest, scan.tokens (chars ++ rest) = tokens ++ next.tokens rest

namespace Scan

variable {scan middle next : Scan} {chars more : List Char} {tokens others : List Token} {c : Char}

theorem Yields.refl : scan.Yields [] [] scan := fun _ => rfl

theorem Yields.trans (first : scan.Yields chars tokens middle)
    (second : middle.Yields more others next) :
    scan.Yields (chars ++ more) (tokens ++ others) next := by
  intro rest
  rw [List.append_assoc, first, second, List.append_assoc]

theorem Yields.of_step (stepped : scan.step c = (next, tokens)) : scan.Yields [c] tokens next := by
  intro rest
  show (scan.step c).2 ++ (scan.step c).1.tokens rest = _
  rw [stepped]

/-- A step that completes nothing, and a course behind it. -/
theorem Yields.cons (stepped : scan.step c = (middle, []))
    (later : middle.Yields chars tokens next) : scan.Yields (c :: chars) tokens next :=
  (Yields.of_step stepped).trans later

theorem blanks_yields (blank : Blanks chars) : between.Yields chars [] between := by
  induction chars with
  | nil => exact .refl
  | cons c chars ih =>
    have first := blank c List.mem_cons_self
    have later := ih fun other member => blank other (List.mem_cons_of_mem c member)
    simp only [List.mem_cons, List.not_mem_nil, or_false] at first
    rcases first with rfl | rfl | rfl | rfl <;> exact later.cons rfl

end Scan

/-! ### Strings -/

section Strings

variable {piece : Piece} {pieces : List Piece} {chars : List Char} (quoted : Quoted)

/-- The string with one more piece. -/
def Piece.onto (quoted : Quoted) : Piece → Quoted
  | .char c => quoted.put c
  | .unit value => quoted.putUnit value

theorem Hex.value {c : Char} {value : Nat} (h : Hex c value) : Quoted.hexValue? c = some value := by
  have table : ∀ n : Fin 16, Quoted.hexValue? (Nat.digitChar n) = some n.val ∧
      Quoted.hexValue? (Nat.digitChar n).toUpper = some n.val := by decide
  obtain ⟨small, rfl | rfl⟩ := h
  · exact (table ⟨value, small⟩).1
  · exact (table ⟨value, small⟩).2

theorem named_step {letter c : Char} (known : (letter, c) ∈ shorthands) :
    Scan.stepQuoted quoted .escaped letter = (.quoted (quoted.put c) .plain, []) := by
  simp only [shorthands, List.mem_cons, List.not_mem_nil, or_false, Prod.mk.injEq] at known
  rcases known with ⟨rfl, rfl⟩ | ⟨rfl, rfl⟩ | ⟨rfl, rfl⟩ | ⟨rfl, rfl⟩ | ⟨rfl, rfl⟩ | ⟨rfl, rfl⟩ |
    ⟨rfl, rfl⟩ | ⟨rfl, rfl⟩ <;> rfl

theorem hex_step {c : Char} {left before value : Nat} (hex : Hex c value) (more : 1 < left) :
    Scan.stepQuoted quoted (.unit left before) c =
      (.quoted quoted (.unit (left - 1) (16 * before + value)), []) := by
  simp only [Scan.stepQuoted, hex.value, if_neg (Nat.not_le.mpr more)]

theorem hex_step_last {c : Char} {before value : Nat} (hex : Hex c value) :
    Scan.stepQuoted quoted (.unit 1 before) c =
      (.quoted (quoted.putUnit (16 * before + value)) .plain, []) := by
  simp only [Scan.stepQuoted, hex.value, Nat.le_refl, if_true]

theorem Piece.Spelled.yields (h : piece.Spelled chars) :
    (Scan.quoted quoted .plain).Yields chars [] (.quoted (piece.onto quoted) .plain) := by
  cases h with
  | plain printable quote backslash =>
    apply Scan.Yields.of_step
    simp only [Scan.step, Scan.stepQuoted, if_neg quote, if_neg backslash,
      if_neg (Char.not_lt.mpr printable)]
    rfl
  | named known =>
    refine .cons rfl (.of_step ?_)
    exact named_step quoted known
  | unit first second third fourth =>
    refine .cons rfl ?_
    refine .cons rfl ?_
    refine .cons (hex_step quoted first (by decide)) ?_
    refine .cons (hex_step quoted second (by decide)) ?_
    refine .cons (hex_step quoted third (by decide)) (.of_step ?_)
    rw [Nat.mul_zero, Nat.zero_add]
    exact hex_step_last quoted fourth

theorem Pieces.yields (h : Pieces pieces chars) :
    (Scan.quoted quoted .plain).Yields chars []
      (.quoted (pieces.foldl Piece.onto quoted) .plain) := by
  induction h generalizing quoted with
  | nil => exact .refl
  | cons first later ih => exact (first.yields quoted).trans (ih _)

theorem token_unsound (broken : quoted.sound = false) :
    (pieces.foldl Piece.onto quoted).token = .text none := by
  induction pieces generalizing quoted with
  | nil => simp [Quoted.token, broken]
  | cons piece pieces ih =>
    apply ih
    cases piece with
    | char c => simp [Piece.onto, Quoted.put, broken]
    | unit value =>
      simp only [Piece.onto, Quoted.putUnit]
      split
      · simp [broken]
      split
      · split
        · exact broken
        · rfl
      · simp [Quoted.put, broken]

section Units

variable {unit : Nat}

theorem not_isHigh (isLow : IsLow unit) : ¬ IsHigh unit :=
  fun isHigh => Nat.not_lt.mpr isLow.1 isHigh.2

theorem putUnit_high (isHigh : IsHigh unit) :
    quoted.putUnit unit =
      { quoted with high := some unit, sound := quoted.sound && quoted.high.isNone } :=
  if_pos isHigh

theorem putUnit_low (isLow : IsLow unit) :
    quoted.putUnit unit =
      match quoted.high with
      | some high =>
        { quoted with
          content := Char.ofNat (0x10000 + 0x400 * (high - 0xD800) + (unit - 0xDC00)) ::
            quoted.content,
          high := none }
      | none => { quoted with sound := false } :=
  (if_neg (not_isHigh isLow)).trans (if_pos isLow)

theorem putUnit_whole (notHigh : ¬ IsHigh unit) (notLow : ¬ IsLow unit) :
    quoted.putUnit unit = quoted.put (Char.ofNat unit) :=
  (if_neg notHigh).trans (if_neg notLow)

theorem joined_whole (notHigh : ¬ IsHigh unit) (notLow : ¬ IsLow unit) :
    joined (.unit unit :: pieces) = joined (.char (Char.ofNat unit) :: pieces) := by
  rw [joined.eq_def]
  simp only [if_neg notHigh, if_neg notLow]
  rfl

theorem joined_low (isLow : IsLow unit) : joined (.unit unit :: pieces) = none := by
  rw [joined.eq_def]
  simp only [if_neg (not_isHigh isLow), if_pos isLow]

theorem joined_pair {low : Nat} (isHigh : IsHigh unit) (isLow : IsLow low) :
    joined (.unit unit :: .unit low :: pieces) =
      joined
        (.char (Char.ofNat (0x10000 + 0x400 * (unit - 0xD800) + (low - 0xDC00))) :: pieces) := by
  rw [joined.eq_def]
  simp only [if_pos isHigh, if_pos isLow]
  rfl

theorem joined_alone (isHigh : IsHigh unit)
    (alone : ∀ low rest, pieces = .unit low :: rest → ¬ IsLow low) :
    joined (.unit unit :: pieces) = none := by
  rw [joined.eq_def]
  simp only [if_pos isHigh]
  split
  · exact if_neg (alone _ _ rfl)
  · rfl

end Units

/-- The scanner joins the pieces to the text they stand for, also when a first half waits. -/
theorem token_joined (sound : quoted.sound = true)
    (waiting : ∀ high, quoted.high = some high → IsHigh high) :
    (pieces.foldl Piece.onto quoted).token =
      .text ((joined ((quoted.high.map Piece.unit).toList ++ pieces)).map fun rest =>
        String.ofList (quoted.content.reverse ++ rest)) := by
  induction pieces generalizing quoted with
  | nil =>
    obtain ⟨content, high, _⟩ := quoted
    subst sound
    cases high with
    | none => simp [Quoted.token, joined]
    | some high => simp [Quoted.token, joined, waiting high rfl]
  | cons piece pieces ih =>
    obtain ⟨content, high, _⟩ := quoted
    subst sound
    -- whatever becomes one character, by itself or as a pair, leaves no half waiting
    have put (c : Char) : (pieces.foldl Piece.onto ⟨c :: content, none, true⟩).token =
        .text ((joined (.char c :: pieces)).map fun rest =>
          String.ofList (content.reverse ++ rest)) := by
      have rest := ih ⟨c :: content, none, true⟩ rfl (by simp)
      simpa [joined, Function.comp_def] using rest
    rw [List.foldl_cons]
    cases high with
    | none =>
      cases piece with
      | char c => exact put c
      | unit value =>
        by_cases isHigh : IsHigh value
        · have waits : ∀ high, some value = some high → IsHigh high := by
            rintro high ⟨⟩
            exact isHigh
          have rest := ih ⟨content, some value, true⟩ rfl waits
          rwa [Piece.onto, putUnit_high _ isHigh]
        by_cases isLow : IsLow value
        · rw [Piece.onto, putUnit_low _ isLow, token_unsound _ rfl]
          exact congrArg Token.text (congrArg (Option.map _) (joined_low isLow)).symm
        · rw [Piece.onto, putUnit_whole _ isHigh isLow]
          exact (put _).trans (by rw [← joined_whole isHigh isLow]; rfl)
    | some high =>
      have isHigh := waiting high rfl
      -- only the second half saves the string now
      by_cases paired : ∃ low, piece = .unit low ∧ IsLow low
      · obtain ⟨low, rfl, isLow⟩ := paired
        rw [Piece.onto, putUnit_low _ isLow]
        exact (put _).trans (by rw [← joined_pair isHigh isLow]; rfl)
      · have alone : joined (.unit high :: piece :: pieces) = none := by
          apply joined_alone isHigh
          rintro low rest ⟨⟩ isLow
          exact paired ⟨low, rfl, isLow⟩
        have broken : (piece.onto ⟨content, some high, true⟩).sound = false := by
          cases piece with
          | char c => rfl
          | unit value =>
            rw [Piece.onto]
            by_cases again : IsHigh value
            · rw [putUnit_high _ again]
              rfl
            · rw [putUnit_whole _ again fun isLow => paired ⟨value, rfl, isLow⟩]
              rfl
        rw [token_unsound _ broken]
        exact congrArg Token.text (congrArg (Option.map _) alone).symm

theorem string_yields (spelled : Pieces pieces chars) :
    Scan.between.Yields ('"' :: (chars ++ ['"'])) [.text ((joined pieces).map String.ofList)]
      .between := by
  refine .cons rfl ?_
  refine (spelled.yields {}).trans (.of_step ?_)
  have token := @token_joined pieces {} rfl nofun
  rw [show (Token.text ((joined pieces).map String.ofList)) = _ from token.symm]
  rfl

end Strings

/-! ### Numbers -/

namespace Numeral

/-- Behind the whole part of a number. -/
def whole (negative : Bool) (value : Nat) : Numeral :=
  if value = 0 then zero negative else digits negative value

/-- Behind everything a number needs. -/
inductive Complete : Numeral → Prop
  | whole (negative : Bool) (value : Nat) : Complete (whole negative value)
  | fraction : Complete fraction
  | power : Complete power

/-- The characters that end a number. -/
def Ends (c : Char) : Prop := c.isDigit = false ∧ c ∉ ['.', 'e', 'E']

variable {numeral : Numeral} {c : Char}

theorem Complete.ended (complete : numeral.Complete) (ends : Ends c) : numeral.extend c = none := by
  obtain ⟨digit, mark⟩ := ends
  simp only [List.mem_cons, List.not_mem_nil, or_false, not_or] at mark
  cases complete with
  | whole negative value =>
    unfold Numeral.whole
    split <;> simp [extend, digit?, afterWhole, digit, mark]
  | fraction => simp [extend, digit, mark]
  | power => simp [extend, digit]

end Numeral

section Numbers

open Numeral

theorem digit_value {value : Nat} (small : value < 10) : digit? value.digitChar = some value := by
  have table : ∀ n : Fin 10, digit? (Nat.digitChar n) = some n.val := by decide
  exact table ⟨value, small⟩

theorem digit_step {value : Nat} (small : value < 10) :
    Scan.between.step value.digitChar = (.numeral (whole false value), []) := by
  have table : ∀ n : Fin 10,
      Scan.between.step (Nat.digitChar n) = (.numeral (whole false n), []) := by decide
  exact table ⟨value, small⟩

theorem sign_step {value : Nat} (small : value < 10) :
    (Scan.numeral .sign).step value.digitChar = (.numeral (whole true value), []) := by
  have table : ∀ n : Fin 10,
      (Scan.numeral .sign).step (Nat.digitChar n) = (.numeral (whole true n), []) := by decide
  exact table ⟨value, small⟩

theorem whole_yields {scan : Scan} {negative : Bool}
    (first : ∀ value < 10, scan.step value.digitChar = (.numeral (whole negative value), []))
    (value : Nat) :
    scan.Yields (Nat.toDigits 10 value) [] (.numeral (whole negative value)) := by
  -- a numeral is that of the value without its last digit and then that digit
  induction value using Nat.strongRecOn with
  | ind value ih =>
    rcases Nat.lt_or_ge value 10 with small | large
    · rw [Nat.toDigits_of_lt_base small]
      exact .of_step (first value small)
    · rw [Nat.toDigits_of_base_le (by decide) large]
      refine (ih (value / 10) (by omega)).trans (.of_step ?_)
      have some : value / 10 ≠ 0 := by omega
      have all : value ≠ 0 := by omega
      have last := digit_value (Nat.mod_lt value (by decide : 0 < 10))
      simp only [whole, if_neg some, if_neg all, Scan.step, extend, last, Nat.div_add_mod]

variable {numeral next : Numeral} {chars : List Char}

theorem extend_step {c : Char} (extended : numeral.extend c = some next) :
    (Scan.numeral numeral).step c = (.numeral next, []) := by
  simp only [Scan.step, extended]

theorem digits_yields (digits : Digits chars)
    (first : ∀ c, c.isDigit = true → numeral.extend c = some next)
    (more : ∀ c, c.isDigit = true → next.extend c = some next) :
    (Scan.numeral numeral).Yields chars [] (.numeral next) := by
  have loop : ∀ rest : List Char, (∀ c ∈ rest, c.isDigit = true) →
      (Scan.numeral next).Yields rest [] (.numeral next) := by
    intro rest all
    induction rest with
    | nil => exact .refl
    | cons c rest ih =>
      refine .cons (extend_step (more c (all c List.mem_cons_self))) (ih ?_)
      exact fun other member => all other (List.mem_cons_of_mem c member)
  obtain ⟨some, all⟩ := digits
  cases chars with
  | nil => exact absurd rfl some
  | cons c rest =>
    refine .cons (extend_step (first c (all c List.mem_cons_self))) (loop rest ?_)
    exact fun other member => all other (List.mem_cons_of_mem c member)

theorem signed_yields {sign : List Char} (signed : sign ∈ [[], ['-']]) (value : Nat) :
    Scan.between.Yields (sign ++ Nat.toDigits 10 value) []
      (.numeral (whole (sign = ['-']) value)) := by
  simp only [List.mem_cons, List.not_mem_nil, or_false] at signed
  rcases signed with rfl | rfl
  · exact whole_yields (fun value => digit_step) value
  · exact .cons rfl (whole_yields (fun value => sign_step) value)

theorem fraction_yields {negative : Bool} {value : Nat} (present : Digits chars) :
    (Scan.numeral (whole negative value)).Yields ('.' :: chars) [] (.numeral .fraction) := by
  have pointed : (whole negative value).extend '.' = some .point := by
    unfold whole
    split <;> rfl
  refine .cons (extend_step pointed) (digits_yields present ?_ ?_)
  · intro c digit
    simp [extend, digit]
  · intro c digit
    simp [extend, digit]

theorem exponent_yields {mark : Char} {sign digits : List Char} (marked : mark ∈ ['e', 'E'])
    (signed : sign ∈ [[], ['+'], ['-']]) (present : Digits digits)
    (ready : ∀ mark ∈ ['e', 'E'], numeral.extend mark = some .exponent) :
    (Scan.numeral numeral).Yields (mark :: (sign ++ digits)) [] (.numeral .power) := by
  refine .cons (extend_step (ready mark marked)) ?_
  have power : ∀ c : Char, c.isDigit = true → Numeral.power.extend c = some .power := by
    intro c digit
    simp [extend, digit]
  simp only [List.mem_cons, List.not_mem_nil, or_false] at signed
  rcases signed with rfl | rfl | rfl
  · exact digits_yields present (fun c digit => by simp [extend, digit]) power
  · exact .cons rfl (digits_yields present power power)
  · exact .cons rfl (digits_yields present power power)

theorem whole_marked {negative : Bool} {value : Nat} :
    ∀ mark ∈ ['e', 'E'], (whole negative value).extend mark = some .exponent := by
  unfold whole
  split <;> simp [extend, digit?, afterWhole]

end Numbers

/-- Behind its last character a number is complete, but not told before something else comes. -/
theorem Token.Spelled.yields_numeric {token : Token} {chars : List Char}
    (spelled : token.Spelled chars) (numeric : token.isNumeric = true) :
    ∃ numeral : Numeral, Scan.between.Yields chars [] (.numeral numeral) ∧
      numeral.token = token ∧ numeral.Complete := by
  cases spelled with
  | integer value =>
    refine ⟨_, signed_yields List.mem_cons_self value, ?_, .whole _ _⟩
    by_cases zero : value = 0 <;> simp [Numeral.whole, Numeral.token, zero]
  | number whole signed behind power other =>
    have first := signed_yields signed whole
    cases behind with
    | absent =>
      have bare := first.trans .refl
      cases power with
      | absent =>
        simp only [List.mem_cons, List.not_mem_nil, or_false] at signed
        rcases signed with rfl | rfl
        · exact absurd rfl other
        · refine ⟨_, bare.trans .refl, ?_, .whole _ _⟩
          by_cases zero : whole = 0 <;> simp [Numeral.whole, Numeral.token, zero]
      | present marked sign digits =>
        exact ⟨_, bare.trans (exponent_yields marked sign digits whole_marked), rfl, .power⟩
    | present digits =>
      have second := first.trans (fraction_yields digits)
      cases power with
      | absent => exact ⟨_, second.trans .refl, rfl, .fraction⟩
      | present marked sign digits =>
        have ready : ∀ mark ∈ ['e', 'E'], Numeral.fraction.extend mark = some .exponent := by
          simp [Numeral.extend]
        exact ⟨_, second.trans (exponent_yields marked sign digits ready), rfl, .power⟩
  | _ => cases numeric

theorem Token.Spelled.yields {token : Token} {chars : List Char} (spelled : token.Spelled chars)
    (other : token.isNumeric = false) : Scan.between.Yields chars [token] .between := by
  cases spelled with
  | integer | number => cases other
  | word known =>
    simp only [List.mem_cons, List.not_mem_nil, or_false] at known
    rcases known with rfl | rfl | rfl <;> exact fun rest => rfl
  | text spelled => exact string_yields spelled
  | _ => exact .of_step rfl

/-! ## Whole texts -/

theorem blank_ends {c : Char} (blank : c ∈ [' ', '\t', '\n', '\r']) : Numeral.Ends c := by
  simp only [List.mem_cons, List.not_mem_nil, or_false] at blank
  rcases blank with rfl | rfl | rfl | rfl <;> exact ⟨rfl, by decide⟩

theorem Token.Spelled.ends {token : Token} {chars : List Char} (spelled : token.Spelled chars)
    (other : token.isNumeric = false) : ∃ c rest, chars = c :: rest ∧ Numeral.Ends c := by
  cases spelled with
  | integer | number => cases other
  | word known =>
    simp only [List.mem_cons, List.not_mem_nil, or_false] at known
    rcases known with rfl | rfl | rfl <;> exact ⟨_, _, rfl, rfl, by decide⟩
  | text => exact ⟨_, _, rfl, rfl, by decide⟩
  | _ => exact ⟨_, _, rfl, rfl, by decide⟩

section Texts

variable {tokens : List Token} {text : List Char}

/-- What is laid out in front of no number ends a number. -/
theorem Laid.ends (laid : Laid tokens text)
    (other : ∀ token ∈ tokens.head?, token.isNumeric = false) :
    ∀ c ∈ text.head?, Numeral.Ends c := by
  intro c first
  cases laid with
  | done blank => exact blank_ends (blank c (List.mem_of_mem_head? first))
  | @token token tokens blanks chars rest blank spelled later =>
    obtain ⟨front, behind, rfl, ends⟩ := spelled.ends (other token rfl)
    cases blanks with
    | nil =>
      obtain rfl := Option.some.inj first
      exact ends
    | cons b blanks =>
      obtain rfl := Option.some.inj first
      exact blank_ends (blank b List.mem_cons_self)

theorem numeral_tokens {numeral : Numeral} (complete : numeral.Complete)
    (ends : ∀ c ∈ text.head?, Numeral.Ends c) :
    (Scan.numeral numeral).tokens text = numeral.token :: Scan.between.tokens text := by
  cases text with
  | nil => rfl
  | cons c rest =>
    simp only [Scan.tokens, Scan.step, complete.ended (ends c rfl), List.cons_append]

/-- **The scanner finds the tokens of a text,** however they are spelled and set apart. -/
theorem Laid.scan (laid : Laid tokens text) (loose : Loose tokens) :
    Scan.between.tokens text = tokens := by
  induction laid with
  | done blank => simpa [Scan.tokens, Scan.finish] using Scan.blanks_yields blank []
  | @token token tokens blanks chars rest blank spelled later ih =>
    obtain ⟨apart, loose⟩ := List.isChain_cons.mp loose
    have behind := ih loose
    have front := Scan.blanks_yields blank
    by_cases numeric : token.isNumeric = true
    -- the scanner tells a number one character late, so what comes behind has to end it
    · obtain ⟨numeral, course, rfl, complete⟩ := spelled.yields_numeric numeric
      have ends := later.ends fun second member =>
        Bool.eq_false_iff.mpr fun also => apart second member ⟨numeric, also⟩
      rw [front.trans course rest, ← behind, ← numeral_tokens complete ends]
      rfl
    · rw [front.trans (spelled.yields (Bool.eq_false_iff.mpr numeric)) rest, behind]
      rfl

end Texts

end MeterBus.Config
