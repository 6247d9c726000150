import MeterBus.Hooks
import Mathlib.Data.List.Basic
import Mathlib.Algebra.GroupWithZero.Nat

/-! # What a dump line says of a frame

A dump line is cut from the hexadecimal text of a whole frame: two bytes of that text at a time, each
pair read as a text of its own. Here the line is described from the frame instead, and read back. No
byte of the text is left without a partner and no pair fails to be a text, so the mark for such a
pair is in no line.

* `Octets.spacedHex`: the part of the line behind its heading, byte by byte.
* `Counts`: a count of at least three digits.
* `pairs_hex`, `pairs_texts`: the pieces that are cut, and what each is as a text.
* `dumpLine_eq`: the line, said of the frame.
* `undump?`: the frame a line is about.
* `dump_determines`: the main result.
-/
namespace MeterBus
set_option autoImplicit false

namespace Octets

/-! ## Text and its bytes -/

/-- The hexadecimal pairs separated by single spaces. -/
def spacedHex (bytes : Octets) : List Char := List.intercalate [' '] (bytes.map hexPair)

theorem ofText_ofList (chars : List Char) :
    ofText (String.ofList chars) = chars.flatMap String.utf8EncodeChar := by
  rw [ofText, String.toUTF8, String.toByteArray_ofList, List.utf8Encode,
    List.toList_data_toByteArray]

theorem text?_encoded (chars : List Char) :
    text? (chars.flatMap String.utf8EncodeChar) = some (String.ofList chars) := by
  have valid : (chars.flatMap String.utf8EncodeChar).toByteArray.IsValidUTF8 := ⟨chars, rfl⟩
  rw [text?, String.fromUTF8?, dif_pos valid]
  rfl

/-- Pieces of two bytes each are found again in what they are joined to. -/
theorem pairs_flatMap {piece : UInt8 → Octets} (two : ∀ byte, (piece byte).length = 2)
    (bytes : Octets) : pairs (bytes.flatMap piece) = bytes.map piece := by
  induction bytes with
  | nil => rfl
  | cons byte bytes ih =>
    obtain ⟨first, second, same⟩ := List.length_eq_two.mp (two byte)
    rw [List.flatMap_cons, List.map_cons, same, ← ih]
    rfl

/-! ## Hexadecimal digits -/

/-- The value of an upper-case hexadecimal digit. -/
def digitValue? (c : Char) : Option Nat :=
  if '0' ≤ c ∧ c ≤ '9' then some (c.toNat - '0'.toNat)
  else if 'A' ≤ c ∧ c ≤ 'F' then some (c.toNat - 'A'.toNat + 10)
  else none

theorem digit_table : ∀ n < 16, digitValue? (hexDigit n) = some n ∧
    hexDigit n ≠ ' ' ∧ (String.utf8EncodeChar (hexDigit n)).length = 1 := by
  decide

theorem halves_lt (byte : UInt8) : byte.toNat / 16 < 16 ∧ byte.toNat % 16 < 16 := by
  have most := byte.toNat_lt
  omega

theorem encoded_pair_length (byte : UInt8) :
    ((hexPair byte).flatMap String.utf8EncodeChar).length = 2 := by
  obtain ⟨high, low⟩ := halves_lt byte
  have one := (digit_table _ high).2.2
  have one' := (digit_table _ low).2.2
  rw [hexPair, List.flatMap_cons, List.flatMap_cons, List.flatMap_nil, List.length_append,
    List.length_append, one, one']
  rfl

/-- The text of a frame falls into the texts of its bytes. -/
theorem pairs_hex (bytes : Octets) :
    pairs (ofText (hex bytes)) =
      bytes.map fun byte => (hexPair byte).flatMap String.utf8EncodeChar := by
  rw [hex, ofText_ofList, List.flatMap_assoc]
  exact pairs_flatMap encoded_pair_length bytes

theorem pairs_texts (bytes : Octets) :
    (pairs (ofText (hex bytes))).map text? =
      bytes.map fun byte => some (String.ofList (hexPair byte)) := by
  rw [pairs_hex, List.map_map]
  refine List.map_congr_left fun byte _ => ?_
  rw [Function.comp_apply, text?_encoded]

/-- The bytes that hexadecimal digits with nothing between them stand for. -/
def ofHex? : List Char → Option Octets
  | [] => some []
  | [_] => none
  | high :: low :: rest =>
    match digitValue? high, digitValue? low, ofHex? rest with
    | some high, some low, some bytes => some ((16 * high + low).toUInt8 :: bytes)
    | _, _, _ => none

theorem ofHex?_digits (bytes : Octets) : ofHex? (bytes.flatMap hexPair) = some bytes := by
  induction bytes with
  | nil => rfl
  | cons byte bytes ih =>
    obtain ⟨high, low⟩ := halves_lt byte
    have whole : 16 * (byte.toNat / 16) + byte.toNat % 16 = byte.toNat := Nat.div_add_mod _ 16
    rw [List.flatMap_cons, hexPair]
    simp only [List.cons_append, List.nil_append, ofHex?, ih,
      (digit_table _ high).1, (digit_table _ low).1, whole,
      Nat.toUInt8_eq, UInt8.ofNat_toNat]

theorem not_space_of_mem_hexPair {byte : UInt8} {c : Char} (h : c ∈ hexPair byte) : c ≠ ' ' := by
  obtain ⟨high, low⟩ := halves_lt byte
  simp only [hexPair, List.mem_cons, List.not_mem_nil, or_false] at h
  obtain rfl | rfl := h
  · exact (digit_table _ high).2.1
  · exact (digit_table _ low).2.1

/-- Without its spaces the text is the digits alone. -/
theorem filter_spacedHex (bytes : Octets) :
    (spacedHex bytes).filter (· ≠ ' ') = bytes.flatMap hexPair := by
  have digits (byte : UInt8) : (hexPair byte).filter (· ≠ ' ') = hexPair byte :=
    List.filter_eq_self.mpr fun c h => decide_eq_true (not_space_of_mem_hexPair h)
  rw [spacedHex]
  induction bytes with
  | nil => rfl
  | cons byte bytes ih =>
    cases bytes with
    | nil => simpa using digits byte
    | cons next bytes =>
      rw [List.map_cons] at ih
      rw [List.map_cons, List.map_cons, List.intercalate_cons_cons, List.filter_append,
        List.filter_append, ih, digits, List.flatMap_cons]
      rfl

theorem ofList_spacedHex (bytes : Octets) :
    String.ofList (spacedHex bytes) =
      " ".intercalate (bytes.map fun byte => String.ofList (hexPair byte)) := by
  rw [← String.toList_inj, String.toList_intercalate, String.toList_ofList, List.map_map]
  simp only [Function.comp_def, String.toList_ofList]
  rfl

end Octets

/-! ## The count -/

/-- `Counts n digits`: the digits are those of `n` in decimal, with zeros in front of them where
there would be less than three. -/
structure Counts (n : Nat) (digits : List Char) : Prop where
  decimal : ∀ c ∈ digits, c.isDigit
  value : Nat.ofDigitChars 10 digits 0 = n
  least : 3 ≤ digits.length
  shortest : ∀ places, 3 ≤ places → n < 10 ^ places → digits.length ≤ places

theorem padded_counts (n : Nat) : Counts n (padded 3 n) where
  decimal c h := by
    rw [padded, List.mem_append, List.mem_replicate] at h
    obtain ⟨-, rfl⟩ | digit := h
    · rfl
    · exact Nat.isDigit_of_mem_toDigits (by decide) (by decide) digit
  value := by
    rw [padded, Nat.ofDigitChars_append, Nat.ofDigitChars_replicate_zero, Nat.mul_zero]
    exact Nat.ofDigitChars_toDigits (by decide) (by decide)
  least := by
    rw [padded, List.length_append, List.length_replicate]
    omega
  shortest places room small := by
    have fits : (Nat.toDigits 10 n).length ≤ places :=
      (Nat.length_toDigits_le_iff (by decide) (by omega)).mpr small
    rw [padded, List.length_append, List.length_replicate]
    omega

/-! ## The line -/

theorem dumpLine_eq (direction : String) (bytes : Octets) :
    dumpLine direction bytes =
      direction ++ " (" ++ String.ofList (padded 3 bytes.length) ++ "): " ++
        String.ofList (Octets.spacedHex bytes) := by
  have texts : (Octets.pairs (Octets.ofText (Octets.hex bytes))).map
      (fun pair => (Octets.text? pair).getD "??") =
        bytes.map fun byte => String.ofList (Octets.hexPair byte) := by
    have each := congrArg (List.map fun text => text.getD "??") (Octets.pairs_texts bytes)
    rw [List.map_map, List.map_map] at each
    exact each
  rw [dumpLine, texts, Octets.ofList_spacedHex]

example : dumpLine "SEND" [0x10, 0x5B, 0x01, 0x5C, 0x16] = "SEND (005): 10 5B 01 5C 16" := by decide

/-- The frame that a line under this direction is about: what follows the heading, without its
spaces, read as hexadecimal. -/
def undump? (direction line : String) : Option Octets := do
  let counted ← (direction.toList ++ [' ', '(']).isPrefixOf? line.toList
  let dumped ← [')', ':', ' '].isPrefixOf? (counted.dropWhile (· ≠ ')'))
  Octets.ofHex? (dumped.filter (· ≠ ' '))

theorem undump?_dumpLine (direction : String) (bytes : Octets) :
    undump? direction (dumpLine direction bytes) = some bytes := by
  -- the first closing parenthesis behind the direction is that of the count
  have digits : ∀ c ∈ padded 3 bytes.length, decide (c ≠ ')') = true := by
    intro c h
    have digit := (padded_counts bytes.length).decimal c h
    refine decide_eq_true ?_
    rintro rfl
    exact absurd digit (by decide)
  have line : (direction.toList ++ [' ', '(']) ++ (padded 3 bytes.length ++
      ([')', ':', ' '] ++ Octets.spacedHex bytes)) = (dumpLine direction bytes).toList := by
    rw [dumpLine_eq]
    simp only [String.toList_append, String.toList_ofList, List.append_assoc]
    rfl
  have counted := List.isPrefixOf?_eq_some_iff_append_eq.mpr line
  have dumped : [')', ':', ' '].isPrefixOf? ([')', ':', ' '] ++ Octets.spacedHex bytes) =
      some (Octets.spacedHex bytes) := List.isPrefixOf?_eq_some_iff_append_eq.mpr rfl
  have closing : ([')', ':', ' '] ++ Octets.spacedHex bytes).dropWhile (· ≠ ')') =
      [')', ':', ' '] ++ Octets.spacedHex bytes := rfl
  rw [undump?, counted, Option.bind_eq_bind, Option.bind_some,
    List.dropWhile_append_of_pos digits, closing, dumped, Option.bind_some,
    Octets.filter_spacedHex, Octets.ofHex?_digits]

/-- **A dump line determines its frame.** It is the direction, the number of bytes in parentheses
and the bytes in hexadecimal; every pair that is cut from the hexadecimal text is a text, so none is
marked; and the bytes are read back from the line, so no other frame has the same one. -/
theorem dump_determines (direction : String) (bytes : Octets) :
    (∃ count, Counts bytes.length count ∧
        dumpLine direction bytes =
          direction ++ " (" ++ String.ofList count ++ "): " ++
            String.ofList (Octets.spacedHex bytes)) ∧
      (∀ pair ∈ Octets.pairs (Octets.ofText (Octets.hex bytes)),
        ∃ text, Octets.text? pair = some text) ∧
      undump? direction (dumpLine direction bytes) = some bytes ∧
      ∀ other, dumpLine direction other = dumpLine direction bytes → other = bytes := by
  refine ⟨⟨_, padded_counts bytes.length, dumpLine_eq direction bytes⟩, ?_,
    undump?_dumpLine direction bytes, ?_⟩
  · intro pair h
    rw [Octets.pairs_hex, List.mem_map] at h
    obtain ⟨byte, -, rfl⟩ := h
    exact ⟨_, Octets.text?_encoded (Octets.hexPair byte)⟩
  · intro other same
    have read := undump?_dumpLine direction other
    rw [same, undump?_dumpLine direction bytes] at read
    exact (Option.some.inj read).symm

end MeterBus
