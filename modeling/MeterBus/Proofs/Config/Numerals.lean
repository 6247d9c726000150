import MeterBus.Proofs.Config.Settings
import MeterBus.Proofs.Rates

/-! # The digits of a rate in the middle of a text

The scanner may be anywhere when the digits of a rate begin: between two tokens, or inside a number,
a string or a word. Only between two tokens are the digits a token of their own. Everywhere else
the rates are as good as each other: they spoil the text, or they become part of one token, which
names no rate and no member of a group, with the same tokens behind it.

* `Scan.Sane`, `Scan.exists_yields`: the states that occur, and the course over any characters.
* `Quoted.Odd`: strings that are no name of a member, whatever is added to them.
* `Bland`: tokens that tell the reader nothing about a rate.
* `Scan.Sane.blurs`, `Scan.between_integer`: the digits of a rate inside a token, and by themselves.
-/
namespace MeterBus.Config
set_option autoImplicit false

/-! ## States that occur -/

/-- A number has no zero in front of other digits. -/
def Numeral.Sane : Numeral → Prop
  | digits _ value => value ≠ 0
  | _ => True

/-- The state is one that the scanner gets to: words are without digits, numbers without zeros in
front, and a code unit has four digits. -/
def Scan.Sane : Scan → Prop
  | word first rest => ∀ c ∈ first :: rest, c.isDigit = false
  | numeral number => number.Sane
  | quoted _ (.unit left _) => 1 ≤ left ∧ left ≤ 4
  | _ => True

namespace Numeral

theorem sane_whole (negative : Bool) (value : Nat) : (whole negative value).Sane := by
  unfold whole
  split
  case isTrue => trivial
  case isFalse some => exact some

theorem sane_some {number : Numeral} (sane : number.Sane) : ∀ other ∈ some number, other.Sane := by
  rintro _ ⟨⟩
  exact sane

theorem sane_none : ∀ other ∈ (none : Option Numeral), other.Sane := nofun

theorem sane_ite {p : Prop} [Decidable p] {first second : Option Numeral}
    (yes : ∀ number ∈ first, number.Sane) (no : ∀ number ∈ second, number.Sane) :
    ∀ number ∈ if p then first else second, number.Sane := by
  split
  case isTrue => exact yes
  case isFalse => exact no

theorem sane_afterWhole (c : Char) : ∀ number ∈ afterWhole c, number.Sane :=
  sane_ite (sane_some trivial) (sane_ite (sane_some trivial) sane_none)

theorem Sane.extend {number : Numeral} (sane : number.Sane) (c : Char) :
    ∀ longer ∈ number.extend c, longer.Sane := by
  cases number with
  | sign =>
    intro longer extended
    obtain ⟨d, -, rfl⟩ := Option.map_eq_some_iff.mp extended
    exact sane_whole true d
  | zero => exact sane_ite (sane_some trivial) (sane_afterWhole c)
  | digits negative value =>
    simp only [Numeral.extend]
    cases digit? c with
    | some d =>
      refine sane_some fun zero => sane ?_
      omega
    | none => exact sane_afterWhole c
  | point | exponentSign | power => exact sane_ite (sane_some trivial) sane_none
  | fraction | exponent =>
    exact sane_ite (sane_some trivial) (sane_ite (sane_some trivial) sane_none)
  | broken => exact sane_none

end Numeral

namespace Scan

theorem sane_ite {p : Prop} [Decidable p] {first second : Scan × List Token} (yes : first.1.Sane)
    (no : second.1.Sane) : (if p then first else second).1.Sane := by
  split
  case isTrue => exact yes
  case isFalse => exact no

theorem sane_begin (c : Char) : (begin c).1.Sane := by
  unfold begin
  iterate 9 refine sane_ite trivial ?_
  iterate 3 refine sane_ite (by simp [Sane]) ?_
  cases Numeral.digit? c with
  | none => trivial
  | some d => exact Numeral.sane_whole false d

theorem sane_stepQuoted {string : Quoted} {escape : Escape} (sane : (quoted string escape).Sane)
    (c : Char) : (stepQuoted string escape c).1.Sane := by
  cases escape with
  | plain => exact sane_ite trivial (sane_ite trivial (sane_ite trivial trivial))
  | escaped =>
    refine sane_ite (by simp [Sane]) ?_
    cases Quoted.escape? c <;> trivial
  | unit left value =>
    simp only [stepQuoted]
    cases Quoted.hexValue? c with
    | none => trivial
    | some d =>
      obtain ⟨_, most⟩ := sane
      by_cases last : left ≤ 1
      · simp only [if_pos last, Sane]
      · simp only [if_neg last, Sane]
        omega

theorem Sane.step {scan : Scan} (sane : scan.Sane) (c : Char) : (scan.step c).1.Sane := by
  cases scan with
  | between => exact sane_begin c
  | word first rest =>
    refine sane_ite ?_ trivial
    cases rest with
    | nil => trivial
    | cons next rest => exact fun other member => sane other (List.mem_cons_of_mem first member)
  | numeral number =>
    simp only [Scan.step]
    cases extended : number.extend c with
    | some longer => exact Numeral.Sane.extend sane c longer extended
    | none => exact sane_begin c
  | quoted string escape => exact sane_stepQuoted sane c

/-- Over any characters the scanner gets to some state. -/
theorem Sane.exists_yields {scan : Scan} (sane : scan.Sane) (chars : List Char) :
    ∃ tokens next, scan.Yields chars tokens next ∧ next.Sane := by
  induction chars generalizing scan with
  | nil => exact ⟨[], scan, .refl, sane⟩
  | cons c chars ih =>
    obtain ⟨tokens, next, course, sane'⟩ := ih (sane.step c)
    exact ⟨_, next, (Yields.of_step rfl).trans course, sane'⟩

end Scan

/-! ## Strings that are no names -/

/-- The characters of the names of members. -/
def isNameChar (c : Char) : Bool := c.isLower || c == '_'

/-- No group has a member of this name. -/
def Foreign (content : Option String) : Prop :=
  ∀ name ∈ content, ∀ group : Group, group.members.lookup name = none

theorem foreign_of_mem {name : String} {c : Char} (among : c ∈ name.toList)
    (strange : isNameChar c = false) : Foreign (some name) := by
  have names : ∀ group : Group, ∀ entry ∈ group.members, entry.1.toList.all isNameChar = true := by
    intro group
    cases group <;> decide
  rintro _ ⟨⟩ group
  refine lookup_foreign fun member => ?_
  obtain ⟨entry, listed, rfl⟩ := List.mem_map.mp member
  have proper := List.all_eq_true.mp (names group entry listed) c among
  exact nomatch strange.symm.trans proper

theorem toNat_of_isNameChar {c : Char} (proper : isNameChar c = true) :
    95 ≤ c.toNat ∧ c.toNat ≤ 122 := by
  delta isNameChar Char.isLower at proper
  simp only [Bool.or_eq_true, Bool.and_eq_true, decide_eq_true_eq, beq_iff_eq, ge_iff_le,
    UInt32.le_iff_toNat_le] at proper
  rcases proper with ⟨least, most⟩ | rfl
  · exact ⟨Nat.le_trans (by decide) least, most⟩
  · decide

/-- A character that no name has. -/
theorem strange_ofNat {n : Nat} (large : 128 ≤ n) : isNameChar (Char.ofNat n) = false := by
  refine Bool.eq_false_iff.mpr fun proper => ?_
  obtain ⟨least, most⟩ := toNat_of_isNameChar proper
  by_cases valid : n.isValidChar
  · have same : (Char.ofNat n).toNat = n := by
      rw [Char.ofNat, dif_pos valid]
      rfl
    omega
  · have zero : Char.ofNat n = '\x00' := dif_neg valid
    rw [zero] at least
    exact absurd least (by decide)

namespace Quoted

/-- Half of a surrogate pair is on its own in the string, or a character that is in no name. -/
def Odd (quoted : Quoted) : Prop :=
  quoted.sound = false ∨ ∃ c ∈ quoted.content, isNameChar c = false

variable {quoted : Quoted}

theorem Odd.put (odd : quoted.Odd) (c : Char) : (quoted.put c).Odd := by
  rcases odd with broken | ⟨other, among, strange⟩
  · exact Or.inl (by rw [Quoted.put, broken, Bool.false_and])
  · exact Or.inr ⟨other, List.mem_cons_of_mem c among, strange⟩

theorem odd_put {c : Char} (strange : isNameChar c = false) : (quoted.put c).Odd :=
  Or.inr ⟨c, List.mem_cons_self, strange⟩

theorem Odd.putUnit (odd : quoted.Odd) (unit : Nat) : (quoted.putUnit unit).Odd := by
  by_cases isHigh : IsHigh unit
  · rw [putUnit_high _ isHigh]
    rcases odd with broken | strange
    · exact Or.inl (by simp only [broken, Bool.false_and])
    · exact Or.inr strange
  by_cases isLow : IsLow unit
  · rw [putUnit_low _ isLow]
    cases quoted.high with
    | none => exact Or.inl rfl
    | some high =>
      rcases odd with broken | ⟨other, among, strange⟩
      · exact Or.inl broken
      · exact Or.inr ⟨other, List.mem_cons_of_mem _ among, strange⟩
  · rw [putUnit_whole _ isHigh isLow]
    exact odd.put _

theorem odd_putUnit {unit : Nat} (large : 128 ≤ unit) (whole : ¬ IsHigh unit ∧ ¬ IsLow unit) :
    (quoted.putUnit unit).Odd := by
  rw [putUnit_whole _ whole.1 whole.2]
  exact odd_put (strange_ofNat large)

theorem Odd.foreign (odd : quoted.Odd) :
    ∃ content, quoted.token = .text content ∧ Foreign content := by
  by_cases whole : (quoted.sound && quoted.high.isNone) = true
  · obtain ⟨sound, -⟩ := Bool.and_eq_true_iff.mp whole
    rcases odd with broken | ⟨c, among, strange⟩
    · exact nomatch sound.symm.trans broken
    · refine ⟨_, if_pos whole, foreign_of_mem ?_ strange⟩
      rwa [String.toList_ofList, List.mem_reverse]
  · exact ⟨none, if_neg whole, nofun⟩

end Quoted

namespace Scan

/-- What one more character does to a string depends on where the scanner is in it, not on what
the string holds. -/
theorem stepQuoted_cases (escape : Escape) (c : Char) :
    (∀ string, stepQuoted string escape c = (between, [string.token])) ∨
      (∀ string, stepQuoted string escape c = (between, [.junk])) ∨
      ∃ next, ∀ string, ∃ longer, (string.Odd → longer.Odd) ∧
        stepQuoted string escape c = (quoted longer next, []) := by
  cases escape with
  | plain =>
    by_cases quote : c = '"'
    · exact Or.inl fun string => if_pos quote
    by_cases backslash : c = '\\'
    · refine Or.inr (Or.inr ⟨.escaped, fun string => ⟨string, id, ?_⟩⟩)
      exact (if_neg quote).trans (if_pos backslash)
    by_cases printable : c < ' '
    · refine Or.inr (Or.inl fun string => ?_)
      exact (if_neg quote).trans ((if_neg backslash).trans (if_pos printable))
    · refine Or.inr (Or.inr ⟨.plain, fun string => ⟨string.put c, fun odd => odd.put c, ?_⟩⟩)
      exact (if_neg quote).trans ((if_neg backslash).trans (if_neg printable))
  | escaped =>
    by_cases unit : c = 'u'
    · exact Or.inr (Or.inr ⟨.unit 4 0, fun string => ⟨string, id, if_pos unit⟩⟩)
    cases meant : Quoted.escape? c with
    | none =>
      refine Or.inr (Or.inl fun string => ?_)
      simp only [stepQuoted, if_neg unit, meant]
    | some other =>
      refine Or.inr (Or.inr ⟨.plain, fun string => ⟨_, fun odd => odd.put other, ?_⟩⟩)
      simp only [stepQuoted, if_neg unit, meant]
  | unit left value =>
    cases digit : Quoted.hexValue? c with
    | none =>
      refine Or.inr (Or.inl fun string => ?_)
      simp only [stepQuoted, digit]
    | some d =>
      by_cases last : left ≤ 1
      · refine Or.inr (Or.inr ⟨.plain, fun string =>
          ⟨_, fun odd => odd.putUnit (16 * value + d), ?_⟩⟩)
        simp only [stepQuoted, digit, if_pos last]
      · refine Or.inr (Or.inr ⟨.unit (left - 1) (16 * value + d), fun string => ⟨string, id, ?_⟩⟩)
        simp only [stepQuoted, digit, if_neg last]

/-- From one place in a string, the same characters end every string or none, and with the same
tokens behind it. -/
theorem string_ends (escape : Escape) (chars : List Char) :
    (∀ string, .junk ∈ (quoted string escape).tokens chars) ∨
      ∃ behind, ∀ string, ∃ longer : Quoted, (string.Odd → longer.Odd) ∧
        (quoted string escape).tokens chars = longer.token :: behind := by
  induction chars generalizing escape with
  | nil => exact Or.inl fun string => List.mem_singleton_self _
  | cons c chars ih =>
    have unfolded (string : Quoted) : (quoted string escape).tokens (c :: chars) =
        (stepQuoted string escape c).2 ++ (stepQuoted string escape c).1.tokens chars := rfl
    simp only [unfolded]
    rcases stepQuoted_cases escape c with stepped | stepped | ⟨next, stepped⟩
    · refine Or.inr ⟨between.tokens chars, fun string => ⟨string, id, ?_⟩⟩
      rw [stepped]
      rfl
    · refine Or.inl fun string => ?_
      rw [stepped]
      exact List.mem_cons_self
    · rcases ih next with spoiled | ⟨behind, ends⟩
      · refine Or.inl fun string => ?_
        obtain ⟨longer, -, same⟩ := stepped string
        rw [same]
        exact spoiled longer
      · refine Or.inr ⟨behind, fun string => ?_⟩
        obtain ⟨longer, odd, same⟩ := stepped string
        obtain ⟨longest, odd', ended⟩ := ends longer
        refine ⟨longest, odd' ∘ odd, ?_⟩
        rw [same]
        exact ended

end Scan

/-! ## Digits inside a token -/

/-- Tokens by which the reader is told nothing about a rate. -/
inductive Bland : Token → Prop
  | number : Bland .number
  | integer {value : Nat} (other : Rate.ofNumber? value = none) : Bland (.integer value)
  | text {content : Option String} (foreign : Foreign content) : Bland (.text content)

/-- Nothing here continues a number. -/
def Apart (chars : List Char) : Prop := ∀ c ∈ chars.head?, Numeral.Ends c

instance : DecidablePred Numeral.Ends := fun c =>
  inferInstanceAs (Decidable (c.isDigit = false ∧ c ∉ ['.', 'e', 'E']))

instance : DecidablePred Apart
  | [] => isTrue nofun
  | c :: _ => decidable_of_iff (Numeral.Ends c) (by simp [Apart])

/-- The digits of a rate. -/
def digits (rate : Rate) : List Char := Nat.toDigits 10 rate.number

/-- Whichever rate stands in front of `back`, it spoils the text or becomes part of a bland token,
and the tokens behind that are the same. -/
def Blurs (scan : Scan) (back : List Char) : Prop :=
  ∃ behind, ∀ rate, .junk ∈ scan.tokens (digits rate ++ back) ∨
    ∃ token, Bland token ∧ scan.tokens (digits rate ++ back) = token :: behind

namespace Scan

variable {back : List Char}

theorem blurs_spoiled {scan : Scan}
    (spoiled : ∀ rate, .junk ∈ scan.tokens (digits rate ++ back)) : Blurs scan back :=
  ⟨[], fun rate => Or.inl (spoiled rate)⟩

theorem word_blurs {first : Char} {rest : List Char} (sane : (word first rest).Sane) :
    Blurs (word first rest) back := by
  refine blurs_spoiled fun rate => ?_
  have other (c : Char) (digit : c.isDigit = true) : c ≠ first := by
    rintro rfl
    exact nomatch digit.symm.trans (sane c List.mem_cons_self)
  have spoiled (c : Char) (more : List Char) (digit : c.isDigit = true) :
      .junk ∈ (word first rest).tokens (c :: more) := by
    have stepped : (word first rest).step c = (between, [.junk]) := if_neg (other c digit)
    rw [Scan.tokens, stepped]
    exact List.mem_cons_self
  cases rate <;> exact spoiled _ _ rfl

/-! ### Numbers -/

theorem zero_spoiled {negative : Bool} {c d : Char} (digit : c.isDigit = true)
    (more : List Char) : .junk ∈ (numeral (.zero negative)).tokens (c :: d :: more) := by
  have broken : (numeral (.zero negative)).step c = (numeral .broken, []) :=
    extend_step (if_pos digit)
  rw [Scan.tokens, broken]
  exact List.mem_cons_self

/-- More digits behind the digits of a value. -/
theorem digits_more (negative : Bool) (value : Nat) {more : List Nat} (small : ∀ d ∈ more, d < 10) :
    (numeral (.digits negative value)).Yields (more.map Nat.digitChar) []
      (numeral (.digits negative (more.foldl (fun value d => 10 * value + d) value))) := by
  induction more generalizing value with
  | nil => exact .refl
  | cons d more ih =>
    obtain ⟨first, rest⟩ := List.forall_mem_cons.mp small
    refine .cons (extend_step ?_) (ih (10 * value + d) rest)
    simp only [Numeral.extend, digit_value first]

def decimals : Rate → List Nat
  | .baud300 => [3, 0, 0]
  | .baud1200 => [1, 2, 0, 0]
  | .baud2400 => [2, 4, 0, 0]
  | .baud9600 => [9, 6, 0, 0]

theorem digits_eq (rate : Rate) : digits rate = (decimals rate).map Nat.digitChar := by
  cases rate <;> rfl

/-- With digits in front of them, those of a rate are the number of no rate. -/
theorem digits_rate (negative : Bool) {value : Nat} (some : value ≠ 0) (rate : Rate) :
    ∃ larger, (numeral (.digits negative value)).Yields (digits rate) []
        (numeral (.digits negative larger)) ∧ larger ≠ 0 ∧ Rate.ofNumber? larger = none := by
  have small : ∀ d ∈ decimals rate, d < 10 := by cases rate <;> decide
  have course := digits_more negative value small
  have other : (decimals rate).foldl (fun value d => 10 * value + d) value ∉
      [0, 300, 1200, 2400, 9600] := by
    cases rate <;> simp only [decimals, List.foldl, List.mem_cons, List.not_mem_nil, or_false] <;>
      omega
  rw [List.mem_cons, not_or] at other
  rw [digits_eq]
  exact ⟨_, course, other.1, Rate.ofNumber?_eq_none other.2⟩

theorem numeral_blurs {number : Numeral} (sane : number.Sane) (apart : Apart back) :
    Blurs (numeral number) back := by
  have ends {rate : Rate} {longer : Numeral}
      (course : (numeral number).Yields (digits rate) [] (numeral longer))
      (complete : longer.Complete) (bland : Bland longer.token) :
      ∃ token, Bland token ∧
        (numeral number).tokens (digits rate ++ back) = token :: between.tokens back :=
    ⟨longer.token, bland, (course back).trans (numeral_tokens complete apart)⟩
  have decimal (rate : Rate) : Digits (digits rate) := by
    have all : (digits rate).all Char.isDigit = true := by cases rate <;> rfl
    exact ⟨by cases rate <;> exact nofun, List.all_eq_true.mp all⟩
  cases number with
  | sign =>
    refine ⟨between.tokens back, fun rate => Or.inr ?_⟩
    have course := whole_yields (fun value => sign_step) rate.number
    refine ends course (.whole true rate.number) ?_
    cases rate <;> exact .number
  | zero negative =>
    refine blurs_spoiled fun rate => ?_
    cases rate <;> exact zero_spoiled rfl _
  | digits negative value =>
    refine ⟨between.tokens back, fun rate => Or.inr ?_⟩
    obtain ⟨larger, course, some, other⟩ := digits_rate negative sane rate
    refine ends course ?_ ?_
    · have whole := Numeral.Complete.whole negative larger
      rwa [Numeral.whole, if_neg some] at whole
    · cases negative with
      | true => exact .number
      | false => exact .integer other
  | point | fraction =>
    refine ⟨between.tokens back, fun rate => Or.inr (ends (digits_yields (decimal rate) ?_ ?_)
      .fraction .number)⟩ <;> intro c digit <;> exact if_pos digit
  | exponentSign | power | exponent =>
    refine ⟨between.tokens back, fun rate => Or.inr (ends (digits_yields (decimal rate) ?_ ?_)
      .power .number)⟩ <;> intro c digit <;> exact if_pos digit
  | broken => exact blurs_spoiled fun rate => by cases rate <;> exact List.mem_cons_self

/-! ### Strings -/

/-- The code unit is a character of its own, and one that is in no name. -/
def IsStrange (unit : Nat) : Prop := 128 ≤ unit ∧ ¬ IsHigh unit ∧ ¬ IsLow unit

section

variable (string : Quoted)

theorem hex_digit {d : Nat} (small : d < 10) : Hex d.digitChar d := ⟨by omega, Or.inl rfl⟩

/-- Digits that stand for themselves. -/
theorem plain_digits {more : List Nat} (small : ∀ d ∈ more, d < 10)
    (odd : more ≠ [] ∨ string.Odd) :
    ∃ longer : Quoted, longer.Odd ∧
      (quoted string .plain).Yields (more.map Nat.digitChar) [] (quoted longer .plain) := by
  have table : ∀ d : Fin 10, isNameChar (Nat.digitChar d) = false ∧ Nat.digitChar d ≠ '"' ∧
      Nat.digitChar d ≠ '\\' ∧ ¬ Nat.digitChar d < ' ' := by decide
  induction more generalizing string with
  | nil => exact ⟨string, odd.resolve_left fun some => some rfl, .refl⟩
  | cons d more ih =>
    obtain ⟨first, rest⟩ := List.forall_mem_cons.mp small
    obtain ⟨strange, quote, backslash, printable⟩ := table ⟨d, first⟩
    have stepped : (quoted string .plain).step d.digitChar =
        (quoted (string.put d.digitChar) .plain, []) :=
      (if_neg quote).trans ((if_neg backslash).trans (if_neg printable))
    obtain ⟨longer, odd', course⟩ := ih (string.put d.digitChar) rest
      (Or.inr (Quoted.odd_put strange))
    exact ⟨longer, odd', .cons stepped course⟩

/-- The number of a code unit behind more of its digits. -/
def unitOf (value : Nat) (more : List Nat) : Nat := more.foldl (fun value d => 16 * value + d) value

/-- Digits inside a code unit that needs still more. -/
theorem unit_more {more : List Nat} (small : ∀ d ∈ more, d < 10) {left : Nat}
    (few : more.length < left) (value : Nat) :
    (quoted string (.unit left value)).Yields (more.map Nat.digitChar) []
      (quoted string (.unit (left - more.length) (unitOf value more))) := by
  induction more generalizing left value with
  | nil => exact .refl
  | cons d more ih =>
    obtain ⟨first, rest⟩ := List.forall_mem_cons.mp small
    rw [List.length_cons] at few ⊢
    have later := ih rest (by omega : more.length < left - 1) (16 * value + d)
    rw [Nat.sub_sub, Nat.add_comm 1] at later
    exact .cons (hex_step string (hex_digit first) (by omega)) later

/-- Digits that complete a code unit, and more behind them. -/
theorem unit_digits (first : List Nat) {more : List Nat} {d : Nat}
    (small : ∀ other ∈ first ++ d :: more, other < 10) (value : Nat)
    (odd : more ≠ [] ∨ IsStrange (16 * unitOf value first + d)) :
    ∃ longer : Quoted, longer.Odd ∧
      (quoted string (.unit (first.length + 1) value)).Yields
        ((first ++ d :: more).map Nat.digitChar) [] (quoted longer .plain) := by
  obtain ⟨small, small'⟩ := List.forall_mem_append.mp small
  obtain ⟨last, small'⟩ := List.forall_mem_cons.mp small'
  have course := unit_more string small (Nat.lt_succ_self first.length) value
  rw [Nat.succ_eq_add_one, Nat.add_sub_cancel_left] at course
  have completed : (quoted string (.unit 1 (unitOf value first))).step d.digitChar =
      (quoted (string.putUnit (16 * unitOf value first + d)) .plain, []) :=
    hex_step_last string (hex_digit last)
  obtain ⟨longer, odd, rest⟩ := plain_digits (string.putUnit _) small'
    (odd.imp_right fun strange => Quoted.odd_putUnit strange.1 strange.2)
  rw [List.map_append]
  exact ⟨longer, odd, course.trans (.cons completed rest)⟩

/-- The digits of a rate spoil a string or make it odd, but those of `300` can leave a code unit
without its last digit. -/
theorem quoted_digits {escape : Escape} (sane : (quoted string escape).Sane) (rate : Rate)
    (rest : List Char) :
    .junk ∈ (quoted string escape).tokens (digits rate ++ rest) ∨
      (∃ longer : Quoted, longer.Odd ∧
        (quoted string escape).Yields (digits rate) [] (quoted longer .plain)) ∨
      ∃ value, (∀ d < 16, IsStrange (16 * value + d)) ∧
        (quoted string escape).Yields (digits rate) [] (quoted string (.unit 1 value)) := by
  have small : ∀ d ∈ decimals rate, d < 10 := by cases rate <;> decide
  have shape : decimals rate = [3, 0, 0] ∨
      ∃ a b, 1 ≤ a ∧ a < 10 ∧ b < 10 ∧ decimals rate = [a, b, 0, 0] := by
    cases rate with
    | baud300 => exact Or.inl rfl
    | _ => exact Or.inr ⟨_, _, by decide, by decide, by decide, rfl⟩
  cases escape with
  | plain =>
    have some : decimals rate ≠ [] := by cases rate <;> exact nofun
    rw [digits_eq]
    exact Or.inr (Or.inl (plain_digits string small (Or.inl some)))
  | escaped =>
    refine Or.inl ?_
    cases rate <;> exact List.mem_cons_self
  | unit left value =>
    obtain ⟨least, most⟩ := sane
    have lefts : left = 1 ∨ left = 2 ∨ left = 3 ∨ left = 4 := by omega
    rw [digits_eq]
    rcases shape with shape | ⟨a, b, positive, ha, hb, shape⟩ <;> rw [shape] at small ⊢
    · rcases lefts with rfl | rfl | rfl | rfl
      · exact Or.inr (Or.inl (unit_digits string [] small value (Or.inl nofun)))
      · exact Or.inr (Or.inl (unit_digits string [3] small value (Or.inl nofun)))
      · refine Or.inr (Or.inl (unit_digits string [3, 0] small value (Or.inr ?_)))
        simp only [unitOf, List.foldl, IsStrange, IsHigh, IsLow]
        omega
      · refine Or.inr (Or.inr ⟨_, fun d few => ?_, unit_more string small (by decide) value⟩)
        simp only [unitOf, List.foldl, IsStrange, IsHigh, IsLow]
        omega
    · rcases lefts with rfl | rfl | rfl | rfl
      · exact Or.inr (Or.inl (unit_digits string [] small value (Or.inl nofun)))
      · exact Or.inr (Or.inl (unit_digits string [a] small value (Or.inl nofun)))
      · exact Or.inr (Or.inl (unit_digits string [a, b] small value (Or.inl nofun)))
      · refine Or.inr (Or.inl (unit_digits string [a, b, 0] small value (Or.inr ?_)))
        simp only [unitOf, List.foldl, IsStrange, IsHigh, IsLow]
        omega

end

/-- A hexadecimal digit can stand for itself in a string. -/
theorem hexValue_some {c : Char} {d : Nat} (hex : Quoted.hexValue? c = some d) :
    d < 16 ∧ c ≠ '"' ∧ c ≠ '\\' ∧ ¬ c < ' ' := by
  have among : 48 ≤ c.toNat ∧ c.toNat ≤ 57 ∧ d = c.toNat - 48 ∨
      97 ≤ c.toNat ∧ c.toNat ≤ 102 ∧ d = c.toNat - 87 ∨
      65 ≤ c.toNat ∧ c.toNat ≤ 70 ∧ d = c.toNat - 55 := by
    unfold Quoted.hexValue? at hex
    split at hex
    case isTrue digit =>
      simp only [Char.isDigit, Bool.and_eq_true, decide_eq_true_eq, ge_iff_le,
        UInt32.le_iff_toNat_le] at digit
      exact Or.inl ⟨digit.1, digit.2, (Option.some.inj hex).symm⟩
    case isFalse =>
      split at hex
      case isTrue lower =>
        simp only [Char.le_def, UInt32.le_iff_toNat_le] at lower
        have least : 97 ≤ c.toNat := lower.1
        have value : c.toNat - 97 + 10 = d := Option.some.inj hex
        exact Or.inr (Or.inl ⟨least, lower.2, by omega⟩)
      case isFalse =>
        split at hex
        case isTrue upper =>
          simp only [Char.le_def, UInt32.le_iff_toNat_le] at upper
          have least : 65 ≤ c.toNat := upper.1
          have value : c.toNat - 65 + 10 = d := Option.some.inj hex
          exact Or.inr (Or.inr ⟨least, upper.2, by omega⟩)
        case isFalse => exact nomatch hex
  have apart (other : Char) (outside : other.toNat < 48 ∨ other.toNat = 92) : c ≠ other := by
    rintro rfl
    omega
  refine ⟨by omega, apart _ (by decide), apart _ (by decide), ?_⟩
  rw [Char.not_lt, Char.le_def, UInt32.le_iff_toNat_le]
  have least : 32 ≤ c.toNat := by omega
  exact least

/-- Odd strings end alike. -/
theorem odd_ends (chars : List Char) :
    ∃ behind, ∀ string : Quoted, string.Odd → .junk ∈ (quoted string .plain).tokens chars ∨
      ∃ token, Bland token ∧ (quoted string .plain).tokens chars = token :: behind := by
  rcases string_ends .plain chars with spoiled | ⟨behind, ends⟩
  · exact ⟨[], fun string _ => Or.inl (spoiled string)⟩
  · refine ⟨behind, fun string odd => Or.inr ?_⟩
    obtain ⟨longer, kept, ended⟩ := ends string
    obtain ⟨content, token, foreign⟩ := (kept odd).foreign
    rw [token] at ended
    exact ⟨_, .text foreign, ended⟩

theorem quoted_blurs {string : Quoted} {escape : Escape} (sane : (quoted string escape).Sane) :
    Blurs (quoted string escape) back := by
  -- where a code unit may lack its last digit, that digit is taken together with the rate
  by_cases hex : ∃ c rest d, back = c :: rest ∧ Quoted.hexValue? c = some d
  · obtain ⟨c, rest, d, rfl, meant⟩ := hex
    obtain ⟨small, quote, backslash, printable⟩ := hexValue_some meant
    obtain ⟨behind, ends⟩ := odd_ends rest
    refine ⟨behind, fun rate => ?_⟩
    rcases quoted_digits string sane rate (c :: rest) with
      spoiled | ⟨longer, odd, course⟩ | ⟨value, strange, course⟩
    · exact Or.inl spoiled
    · have stepped : (quoted longer .plain).step c = (quoted (longer.put c) .plain, []) :=
        (if_neg quote).trans ((if_neg backslash).trans (if_neg printable))
      have same := (course (c :: rest)).trans (Yields.of_step stepped rest)
      rw [same]
      exact ends _ (odd.put c)
    · have stepped : (quoted string (.unit 1 value)).step c =
          (quoted (string.putUnit (16 * value + d)) .plain, []) := by
        simp only [Scan.step, stepQuoted, meant, Nat.le_refl, if_true]
      have same := (course (c :: rest)).trans (Yields.of_step stepped rest)
      rw [same]
      exact ends _ (Quoted.odd_putUnit (strange d small).1 (strange d small).2)
  · obtain ⟨behind, ends⟩ := odd_ends back
    refine ⟨behind, fun rate => ?_⟩
    rcases quoted_digits string sane rate back with
      spoiled | ⟨longer, odd, course⟩ | ⟨value, strange, course⟩
    · exact Or.inl spoiled
    · rw [course back]
      exact ends longer odd
    · refine Or.inl ?_
      rw [course back]
      cases back with
      | nil => exact List.mem_singleton_self _
      | cons c rest =>
        have other : Quoted.hexValue? c = none := by
          cases meant : Quoted.hexValue? c with
          | none => rfl
          | some d => exact absurd ⟨c, rest, d, rfl, meant⟩ hex
        have stepped : (quoted string (.unit 1 value)).step c = (between, [.junk]) := by
          simp only [Scan.step, stepQuoted, other]
        have same := Yields.of_step stepped rest
        rw [List.singleton_append] at same
        rw [same]
        exact List.mem_cons_self

/-! ### Anywhere -/

/-- **Anywhere but between two tokens one rate is as good as another.** -/
theorem Sane.blurs {scan : Scan} (sane : scan.Sane) (inside : scan ≠ between)
    (apart : Apart back) : Blurs scan back := by
  cases scan with
  | between => exact absurd rfl inside
  | word first rest => exact word_blurs sane
  | numeral number => exact numeral_blurs sane apart
  | quoted string escape => exact quoted_blurs sane

/-- Between two tokens the digits of a number are a token of their own. -/
theorem between_integer (value : Nat) (apart : Apart back) :
    between.tokens (Nat.toDigits 10 value ++ back) = .integer value :: between.tokens back := by
  have course := whole_yields (fun value => digit_step) value
  have token : (Numeral.whole false value).token = .integer value := by
    unfold Numeral.whole
    split
    case isTrue zero => rw [zero]; rfl
    case isFalse => rfl
  rw [course, ← token]
  exact numeral_tokens (.whole false value) apart

end Scan

end MeterBus.Config
