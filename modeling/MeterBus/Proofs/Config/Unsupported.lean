import MeterBus.Proofs.Config.Numerals
import MeterBus.Proofs.Config.Texts

/-! # Numbers that are no rates

A reader objects to a number that is no rate where a rate is due, and it does so before it sees what
is behind the number. What has to be shown is that the rates of a configuration come from such
places only. If two rates are read from the same place of a text and the configurations differ in
their rates, then the digits are a token of their own, since anywhere else they blur; and if no rate
is due in front of that token, the reader is left with the same rates by both.

* `Slot`: the two things a reader looks for that are rates.
* `Reader.step_upon`: what was found before does not matter to the reader.
* `Reader.Passes`, `Reader.Alike`: tokens after which the reader is no wiser about one of the rates.
* `Reader.awaits_of_read`, `Reader.Awaits.completes`: where the rates make a difference.
* `Reports`, `Stands`, `unsupported_reported`: any other number is reported there.
-/
namespace MeterBus
set_option autoImplicit false

namespace Config

/-! ## The rates among what is found -/

/-- What is looked for that is a rate. -/
inductive Slot where
  | line
  | target

namespace Slot

def place : Slot → Place
  | line => .lineRate
  | target => .targetRate

def rate? (slot : Slot) (found : Found) : Option Rate :=
  match slot with
  | line => found.lineRate
  | target => found.targetRate

def put (slot : Slot) (rate : Rate) (found : Found) : Found :=
  match slot with
  | line => { found with lineRate := some rate }
  | target => { found with targetRate := some rate }

/-- The rate if none is found. -/
def fallback : Slot → Rate
  | line => Rate.initial
  | target => ({} : Probe).target

variable {slot other : Slot}

theorem rate?_put (rate : Rate) (found : Found) : slot.rate? (slot.put rate found) = some rate := by
  cases slot <;> rfl

theorem rate?_put_ne (differ : other ≠ slot) (rate : Rate) (found : Found) :
    slot.rate? (other.put rate found) = slot.rate? found := by
  cases slot <;> cases other <;> first | exact absurd rfl differ | rfl

theorem rate?_or (now before : Found) :
    slot.rate? (now.or before) = (slot.rate? now).or (slot.rate? before) := by
  cases slot <;> rfl

end Slot

namespace Reader

/-! ## What was found before -/

/-- The reader with what it has found laid over what was found before. -/
def upon (reader : Reader) (before : Found) : Reader :=
  { reader with found := reader.found.or before }

section

variable (reader : Reader) (before : Found)

theorem value_upon (place : Place) (token : Token) :
    (reader.upon before).value place token = (reader.value place token).map (·.upon before) := by
  unfold value
  split
  case h_1 number | h_2 number => cases rate number <;> rfl
  case h_3 => split <;> rfl
  all_goals rfl

theorem item_upon :
    (reader.upon before).item = reader.item.map fun made => (made.1.upon before, made.2) := by
  obtain ⟨found, nest, await⟩ := reader
  simp only [item, upon]
  split <;> rfl

theorem name_upon (content : Option String) :
    (reader.upon before).name content = (reader.name content).map (·.upon before) := by
  obtain ⟨found, nest, await⟩ := reader
  simp only [name, upon]
  split
  case h_2 =>
    split
    · rfl
    · split <;> rfl
  all_goals rfl

theorem delimiter_upon (token : Token) :
    (reader.upon before).delimiter token = (reader.delimiter token).map (·.upon before) := by
  have nest : (reader.upon before).nest = reader.nest := rfl
  unfold delimiter
  rw [nest]
  split
  case h_3 =>
    rw [item_upon]
    cases reader.item <;> rfl
  all_goals rfl

/-- What a reader does with a token does not depend on what was found before. -/
theorem step_upon (token : Token) :
    (reader.upon before).step token = (reader.step token).map (·.upon before) := by
  have await : (reader.upon before).await = reader.await := rfl
  unfold step
  rw [await]
  split
  case h_1 => exact value_upon reader before _ _
  case h_3 | h_4 => exact name_upon reader before _
  case h_7 =>
    rw [item_upon]
    cases reader.item with
    | error fault => rfl
    | ok made => exact value_upon made.1 before made.2 _
  case h_8 => exact delimiter_upon reader before _
  all_goals rfl

theorem foldlM_upon (tokens : List Token) :
    tokens.foldlM step (reader.upon before) =
      (tokens.foldlM step reader).map (·.upon before) := by
  induction tokens generalizing reader with
  | nil => rfl
  | cons token tokens ih =>
    rw [List.foldlM_cons, List.foldlM_cons, step_upon]
    cases reader.step token with
    | error fault => rfl
    | ok next => exact ih next

end

/-! ## Where a rate is due -/

/-- A value of this kind may begin here. -/
def Expects (reader : Reader) (place : Place) : Prop :=
  reader.await = .value place ∨
    reader.await = .firstItem ∧ ∃ made, reader.item = .ok (made, place)

/-- The reader behind a thing it has not looked into. -/
def past (reader : Reader) : Reader :=
  match reader.await with
  | .value _ => { reader with await := .delimiter }
  | .firstItem =>
    match reader.item with
    | .ok (made, _) => { made with await := .delimiter }
    | .error _ => reader
  | _ => { reader with await := .colon .anything }

/-- The two readers are at the same point and have found the same rate for the slot. -/
structure Alike (slot : Slot) (one other : Reader) : Prop where
  nest : one.nest = other.nest
  await : one.await = other.await
  rate : slot.rate? one.found = slot.rate? other.found

/-- If the reader gets over this token, it is no wiser about the rate for the slot. -/
def Passes (slot : Slot) (reader : Reader) (token : Token) : Prop :=
  ∀ next, reader.step token = .ok next → Alike slot next reader.past

variable {reader next : Reader} {token : Token} {place : Place} {slot : Slot}

theorem rate_unsupported {number : Nat} (other : Rate.ofNumber? number = none) :
    ∃ fault, rate number = .error fault := by
  unfold rate
  rw [other]
  split <;> exact ⟨_, rfl⟩

theorem value_slot (reader : Reader) (slot : Slot) (number : Nat) :
    reader.value slot.place (.integer number) = (do
      let rate ← rate number
      passed { reader with found := slot.put rate reader.found }) := by
  cases slot <;> rfl

theorem alike_passed (next : Reader) (passed : reader.passed = .ok next) :
    Alike slot next { reader with await := .delimiter } := by
  obtain rfl := Except.ok.inj passed
  exact ⟨rfl, rfl, rfl⟩

theorem value_attempts {number : Nat}
    (stepped : reader.value .attempts (.integer number) = .ok next) :
    Alike slot next { reader with await := .delimiter } := by
  simp only [value] at stepped
  split at stepped
  case isTrue =>
    obtain rfl := Except.ok.inj stepped
    cases slot <;> exact ⟨rfl, rfl, rfl⟩
  case isFalse => cases stepped

theorem value_other {other : Slot} {number : Nat} (differ : other ≠ slot)
    (stepped : reader.value other.place (.integer number) = .ok next) :
    Alike slot next { reader with await := .delimiter } := by
  rw [value_slot] at stepped
  obtain ⟨rate, -, passed⟩ := bind_ok stepped
  obtain rfl := Except.ok.inj passed
  exact ⟨rfl, rfl, Slot.rate?_put_ne differ rate reader.found⟩

theorem value_bland (bland : Bland token) (stepped : reader.value place token = .ok next) :
    Alike slot next { reader with await := .delimiter } := by
  cases bland with
  | number =>
    cases place with
    | anything => exact alike_passed next stepped
    | _ => cases stepped
  | integer other =>
    obtain ⟨fault, failed⟩ := rate_unsupported other
    cases place with
    | lineRate | targetRate =>
      simp only [value, failed] at stepped
      cases stepped
    | attempts => exact value_attempts stepped
    | group => cases stepped
    | anything => exact alike_passed next stepped
  | text foreign =>
    cases place with
    | anything => exact alike_passed next stepped
    | _ => cases stepped

theorem value_integer {number : Nat} (elsewhere : place ≠ slot.place)
    (stepped : reader.value place (.integer number) = .ok next) :
    Alike slot next { reader with await := .delimiter } := by
  cases place with
  | lineRate =>
    have differ : Slot.line ≠ slot := fun same => elsewhere (same ▸ rfl)
    exact value_other differ stepped
  | targetRate =>
    have differ : Slot.target ≠ slot := fun same => elsewhere (same ▸ rfl)
    exact value_other differ stepped
  | attempts => exact value_attempts stepped
  | group => cases stepped
  | anything => exact alike_passed next stepped

theorem name_foreign {content : Option String} (foreign : Foreign content)
    (stepped : reader.name content = .ok next) :
    Alike slot next { reader with await := .colon .anything } := by
  unfold name at stepped
  split at stepped
  case h_1 =>
    obtain rfl := Except.ok.inj stepped
    exact ⟨rfl, rfl, rfl⟩
  case h_2 group seen nest name _ =>
    rw [foreign name rfl group] at stepped
    obtain rfl := Except.ok.inj stepped
    exact ⟨rfl, rfl, rfl⟩
  case h_3 => exact nomatch stepped

/-- Tokens that begin nothing, end nothing and name no member of a group. -/
inductive Closed : Token → Prop
  | number : Closed .number
  | integer (value : Nat) : Closed (.integer value)
  | text {content : Option String} (foreign : Foreign content) : Closed (.text content)

theorem closed_of_bland (bland : Bland token) : Closed token := by
  cases bland with
  | number => exact .number
  | integer => exact .integer _
  | text foreign => exact .text foreign

/-- Where a value may begin, the reader takes such a token for one; where a name may stand, for the
name of a member to skip. -/
theorem Closed.passes (closed : Closed token)
    (valued : ∀ place, reader.Expects place → ∀ made next : Reader,
      made.value place token = .ok next → Alike slot next { made with await := .delimiter }) :
    Passes slot reader token := by
  intro next stepped
  obtain ⟨found, nest, await⟩ := reader
  cases await with
  | value place => exact valued place (Or.inl rfl) _ next stepped
  | firstMember | member =>
    cases closed with
    | number | integer => exact nomatch stepped
    | text foreign => exact name_foreign foreign stepped
  | colon => cases closed <;> exact nomatch stepped
  | firstItem =>
    have peeled : (Reader.item ⟨found, nest, .firstItem⟩ >>= fun made =>
        made.1.value made.2 token) = .ok next := by
      cases closed <;> exact stepped
    obtain ⟨made, due, peeled⟩ := bind_ok peeled
    simp only [past, due]
    exact valued made.2 (Or.inr ⟨rfl, made.1, due⟩) made.1 next peeled
  | delimiter =>
    have failed : Reader.delimiter ⟨found, nest, .delimiter⟩ token = .error .malformed := by
      unfold delimiter
      cases closed <;> split <;> trivial
    exact nomatch failed.symm.trans stepped

theorem passes_bland (bland : Bland token) : Passes slot reader token :=
  (closed_of_bland bland).passes fun _ _ _ _ stepped => value_bland bland stepped

theorem passes_integer (elsewhere : ¬ reader.Expects slot.place) (value : Nat) :
    Passes slot reader (.integer value) := by
  refine Closed.passes (.integer value) fun place expected made next stepped => ?_
  refine value_integer ?_ stepped
  rintro rfl
  exact elsewhere expected

theorem step_junk (reader : Reader) : ∃ fault, reader.step .junk = .error fault := by
  obtain ⟨found, nest, await⟩ := reader
  cases await with
  | value place => cases place <;> exact ⟨_, rfl⟩
  | firstMember | member | colon => exact ⟨_, rfl⟩
  | firstItem =>
    show ∃ fault, (Reader.item ⟨found, nest, .firstItem⟩ >>= fun made =>
      made.1.value made.2 .junk) = .error fault
    cases Reader.item ⟨found, nest, .firstItem⟩ with
    | error fault => exact ⟨fault, rfl⟩
    | ok made =>
      obtain ⟨made, place⟩ := made
      cases place <;> exact ⟨_, rfl⟩
  | delimiter =>
    refine ⟨.malformed, ?_⟩
    show Reader.delimiter ⟨found, nest, .delimiter⟩ .junk = _
    unfold delimiter
    split <;> trivial

/-! ## The rest of a text -/

/-- With these tokens the text is complete, and this is found in it. -/
def Ends (reader : Reader) (tokens : List Token) (found : Found) : Prop :=
  ∃ last, reader.Goes tokens last ∧ last.settle = .ok found

section

variable {one other : Reader} {tokens more : List Token} {found found' : Found} {text : String}

theorem ends_of_read (read : Reader.read place text = .ok found) :
    Ends { await := .value place } (Token.scan text) found := bind_ok read

theorem Ends.split (ends : reader.Ends (tokens ++ more) found) :
    ∃ middle, reader.Goes tokens middle ∧ middle.Ends more found := by
  obtain ⟨last, course, settled⟩ := ends
  obtain ⟨middle, first, later⟩ := course.split
  exact ⟨middle, first, last, later, settled⟩

theorem Ends.uncons (ends : reader.Ends (token :: tokens) found) :
    ∃ next, reader.step token = .ok next ∧ next.Ends tokens found := by
  obtain ⟨last, course, settled⟩ := ends
  obtain ⟨next, stepped, later⟩ := course.uncons
  exact ⟨next, stepped, last, later, settled⟩

theorem Ends.no_junk (ends : reader.Ends tokens found) : .junk ∉ tokens := by
  induction tokens generalizing reader with
  | nil => exact nofun
  | cons token tokens ih =>
    obtain ⟨next, stepped, ends⟩ := ends.uncons
    refine List.not_mem_cons_of_ne_of_not_mem ?_ (ih ends)
    rintro rfl
    obtain ⟨fault, failed⟩ := step_junk reader
    exact nomatch failed.symm.trans stepped

theorem Ends.of_upon {before : Found} (ends : (reader.upon before).Ends tokens found) :
    ∃ last, reader.Goes tokens last ∧ found = last.found.or before := by
  obtain ⟨last, course, settled⟩ := ends
  rw [Goes, foldlM_upon] at course
  cases bare : tokens.foldlM step reader with
  | error fault =>
    rw [bare] at course
    cases course
  | ok made =>
    rw [bare] at course
    obtain rfl := Except.ok.inj course
    exact ⟨made, bare, (settle_found settled).symm⟩

/-- The rest of a text adds the same to the same rate. -/
theorem Alike.ends (alike : Alike slot one other) (first : one.Ends tokens found)
    (second : other.Ends tokens found') : slot.rate? found = slot.rate? found' := by
  let bare : Reader := { one with found := {} }
  have here : one = bare.upon one.found := by simp only [bare, upon, Found.empty_or]
  have there : other = bare.upon other.found := by
    simp only [bare, upon, Found.empty_or, alike.nest, alike.await]
  rw [here] at first
  rw [there] at second
  obtain ⟨last, course, rfl⟩ := first.of_upon
  obtain ⟨last', course', rfl⟩ := second.of_upon
  obtain rfl := Except.ok.inj (course.symm.trans course')
  rw [Slot.rate?_or, Slot.rate?_or, alike.rate]

theorem Alike.trans_symm {third : Reader} (first : Alike slot one third)
    (second : Alike slot other third) : Alike slot one other :=
  ⟨first.nest.trans second.nest.symm, first.await.trans second.await.symm,
    first.rate.trans second.rate.symm⟩

/-- Tokens that are passed make no difference to the rate. -/
theorem Passes.same {token' : Token} (passes : Passes slot reader token)
    (passes' : Passes slot reader token') (first : reader.Ends (token :: tokens) found)
    (second : reader.Ends (token' :: tokens) found') : slot.rate? found = slot.rate? found' := by
  obtain ⟨next, stepped, ends⟩ := first.uncons
  obtain ⟨next', stepped', ends'⟩ := second.uncons
  exact ((passes next stepped).trans_symm (passes' next' stepped')).ends ends ends'

end

/-! ## Where the rates make a difference -/

/-- Behind `front` stands the value that is looked for as the rate for the slot. -/
def Awaits (whole : Place) (slot : Slot) (front : String) : Prop :=
  ∃ tokens reader, Scan.between.Yields front.toList tokens .between ∧
    Goes { await := .value whole } tokens reader ∧ reader.Expects slot.place

section

variable {whole : Place} {front back : String} {found found' : Found} {one other : Rate}

theorem text_digits (rate : Rate) : rate.text.toList = digits rate := Nat.toList_repr

/-- **Where it matters which rate is written, a rate is due.** -/
theorem awaits_of_read (apart : Apart back.toList)
    (first : Reader.read whole (front ++ one.text ++ back) = .ok found)
    (second : Reader.read whole (front ++ other.text ++ back) = .ok found')
    (differ : slot.rate? found ≠ slot.rate? found') : Awaits whole slot front := by
  have start : Scan.between.Sane := trivial
  obtain ⟨tokens, scan, course, sane⟩ := start.exists_yields front.toList
  have scanned (rate : Rate) : Token.scan (front ++ rate.text ++ back) =
      tokens ++ scan.tokens (digits rate ++ back.toList) := by
    rw [Token.scan, String.toList_append, String.toList_append, List.append_assoc, text_digits]
    exact course _
  have ends := ends_of_read first
  have ends' := ends_of_read second
  rw [scanned] at ends ends'
  obtain ⟨reader, goes, ends⟩ := ends.split
  obtain ⟨reader', goes', ends'⟩ := ends'.split
  obtain rfl := Except.ok.inj (goes.symm.trans goes')
  by_cases inside : scan = .between
  · subst inside
    refine ⟨tokens, reader, course, goes, Classical.byContradiction fun elsewhere => ?_⟩
    rw [digits, Scan.between_integer _ apart] at ends ends'
    exact differ ((passes_integer elsewhere _).same (passes_integer elsewhere _) ends ends')
  · exfalso
    obtain ⟨behind, blurs⟩ := sane.blurs inside apart
    rcases blurs one with spoiled | ⟨token, bland, blurred⟩
    · exact ends.no_junk spoiled
    rcases blurs other with spoiled | ⟨token', bland', blurred'⟩
    · exact ends'.no_junk spoiled
    rw [blurred] at ends
    rw [blurred'] at ends'
    exact differ ((passes_bland bland).same (passes_bland bland') ends ends')

theorem rate_of_other {number : Nat} (small : number < UInt32.size)
    (other : Rate.ofNumber? number = none) :
    Reader.rate number = .error (.unsupportedRate number) := by
  unfold Reader.rate
  rw [if_pos small, other]

theorem Expects.integer (expects : reader.Expects place) :
    ∃ made : Reader, ∀ number,
      reader.step (.integer number) = made.value place (.integer number) := by
  obtain ⟨found, nest, await⟩ := reader
  rcases expects with awaited | ⟨awaited, made, due⟩
  · obtain rfl : await = .value place := awaited
    exact ⟨_, fun number => rfl⟩
  · obtain rfl : await = .firstItem := awaited
    refine ⟨made, fun number => ?_⟩
    show (Reader.item ⟨found, nest, .firstItem⟩ >>= fun made =>
      made.1.value made.2 (.integer number)) = _
    rw [due]
    rfl

theorem Expects.refuses {number : Nat} (expects : reader.Expects slot.place)
    (small : number < UInt32.size) (other : Rate.ofNumber? number = none) :
    reader.step (.integer number) = .error (.unsupportedRate number) := by
  obtain ⟨made, stepped⟩ := expects.integer
  rw [stepped, value_slot, rate_of_other small other]
  rfl

/-- **Where a rate is due, any other number is reported,** whatever follows it. -/
theorem Awaits.refuses (awaits : Awaits whole slot front) {number : Nat}
    (small : number < UInt32.size) (other : Rate.ofNumber? number = none) {rest : String}
    (apart : Apart rest.toList) :
    Reader.read whole (front ++ toString number ++ rest) = .error (.unsupportedRate number) := by
  obtain ⟨tokens, reader, course, goes, due⟩ := awaits
  have digits : (toString number).toList = Nat.toDigits 10 number := Nat.toList_repr
  have scanned : Token.scan (front ++ toString number ++ rest) =
      tokens ++ .integer number :: Scan.between.tokens rest.toList := by
    rw [Token.scan, String.toList_append, String.toList_append, List.append_assoc, digits, course,
      Scan.between_integer _ apart]
  rw [Reader.read, scanned, List.foldlM_append, goes]
  show (List.foldlM Reader.step reader (_ :: _) >>= settle) = _
  rw [List.foldlM_cons, due.refuses small other]
  rfl

/-! ### Closing what is open -/

/-- What closes it. -/
def closer : Nest → Char
  | .object _ _ => '\x7d'
  | .array _ => ']'

def closing : Nest → Token
  | .object _ _ => .closeBrace
  | .array _ => .closeBracket

theorem apart_closers (nest : List Nest) : Apart (nest.map closer) := by
  intro c first
  obtain ⟨innermost, -, rfl⟩ := Option.map_eq_some_iff.mp (List.head?_map.symm.trans first)
  cases innermost <;> exact ⟨rfl, by simp [closer]⟩

theorem scan_closers (nest : List Nest) :
    Scan.between.tokens (nest.map closer) = nest.map closing := by
  induction nest with
  | nil => rfl
  | cons innermost nest ih =>
    rw [List.map_cons, List.map_cons, ← ih]
    cases innermost <;> rfl

theorem closed_ends (found : Found) (nest : List Nest) :
    Ends { found, nest, await := .delimiter } (nest.map closing) found := by
  induction nest with
  | nil => exact ⟨_, rfl, rfl⟩
  | cons innermost nest ih =>
    obtain ⟨last, course, settled⟩ := ih
    refine ⟨last, .cons ?_ course, settled⟩
    cases innermost <;> rfl

theorem Expects.takes (expects : reader.Expects slot.place) :
    ∃ made : Reader, ∀ rate : Rate, reader.step (.integer rate.number) =
      .ok { made with found := slot.put rate made.found, await := .delimiter } := by
  obtain ⟨made, stepped⟩ := expects.integer
  refine ⟨made, fun rate => ?_⟩
  have known : Reader.rate rate.number = .ok rate := by cases rate <;> rfl
  rw [stepped, value_slot, known]
  rfl

/-- Where a rate is due, each rate can be written and is found. -/
theorem Awaits.completes (awaits : Awaits whole slot front) :
    ∃ (back : String) (before : Found), Apart back.toList ∧
      ∀ rate : Rate,
        Reader.read whole (front ++ rate.text ++ back) = .ok (slot.put rate before) := by
  obtain ⟨tokens, reader, course, goes, expects⟩ := awaits
  obtain ⟨made, takes⟩ := expects.takes
  refine ⟨String.ofList (made.nest.map closer), made.found, ?_, fun rate => ?_⟩
  · rw [String.toList_ofList]
    exact apart_closers made.nest
  have scanned : Token.scan (front ++ rate.text ++ String.ofList (made.nest.map closer)) =
      tokens ++ .integer rate.number :: made.nest.map closing := by
    rw [Token.scan, String.toList_append, String.toList_append, String.toList_ofList,
      List.append_assoc, text_digits, course, digits,
      Scan.between_integer _ (apart_closers made.nest), scan_closers]
  obtain ⟨last, closed, settled⟩ := closed_ends (slot.put rate made.found) made.nest
  have read := goes.trans (.cons (takes rate) closed)
  rw [Reader.read, scanned, read]
  exact settled

end

end Reader

/-! ## Reported whatever follows -/

section Reports

variable {α : Type}

/-- The number between `front` and `back` is the rate of the configuration: 2400 can be read there,
and another rate, and each of them is its rate then. -/
def Tells (read : String → Except Fault α) (rate : α → Rate) (front back : String) : Prop :=
  ∃ other : Rate, other ≠ .baud2400 ∧ ∀ named ∈ [.baud2400, other],
    ∃ config, read (front ++ named.text ++ back) = .ok config ∧ rate config = named

/-- Where the rate of a configuration stands, a number that is no rate is reported, whatever is
behind it. -/
def Reports (read : String → Except Fault α) (rate : α → Rate) : Prop :=
  ∀ front back : String, Apart back.toList → Tells read rate front back →
    ∀ number < UInt32.size, number ∉ [300, 1200, 2400, 9600] →
      ∀ rest : String, Apart rest.toList →
        read (front ++ toString number ++ rest) = .error (.unsupportedRate number) ∧
          (Fault.unsupportedRate number).message = "Unsupported baud rate: " ++ toString number

/-- Behind `front` stands the rate of the configuration exactly if the reader has come there to look
for the rate of the slot. -/
def Stands (whole : Place) (slot : Slot) (read : String → Except Fault α) (rate : α → Rate) :
    Prop :=
  ∀ front : String, Reader.Awaits whole slot front ↔
    ∃ back : String, Apart back.toList ∧ Tells read rate front back

/-- The texts are read as values of the kind `whole`, and the rate is what is found for the slot. -/
structure Taken (whole : Place) (slot : Slot) (read : String → Except Fault α) (rate : α → Rate) :
    Prop where
  found : ∀ text config, read text = .ok config → ∃ found, Reader.read whole text = .ok found ∧
    (slot.rate? found).getD slot.fallback = rate config
  makes : ∀ text found, Reader.read whole text = .ok found → (slot.rate? found).isSome →
    ∃ config, read text = .ok config
  fails : ∀ text fault, Reader.read whole text = .error fault → read text = .error fault

section Taken

variable {whole : Place} {slot : Slot} {read : String → Except Fault α} {rate : α → Rate}

theorem Taken.awaits (taken : Taken whole slot read rate) {front back : String}
    (apart : Apart back.toList) (tells : Tells read rate front back) :
    Reader.Awaits whole slot front := by
  obtain ⟨other, differ, tells⟩ := tells
  obtain ⟨config, first, named⟩ := tells .baud2400 (by simp)
  obtain ⟨config', second, named'⟩ := tells other (by simp)
  obtain ⟨found, first, given⟩ := taken.found _ _ first
  obtain ⟨found', second, given'⟩ := taken.found _ _ second
  refine Reader.awaits_of_read apart first second fun equal => differ ?_
  rw [← named, ← named', ← given, ← given', equal]

theorem Taken.reports (taken : Taken whole slot read rate) : Reports read rate := by
  intro front back apart tells number small unsupported rest apart'
  have awaits := taken.awaits apart tells
  exact ⟨taken.fails _ _ (awaits.refuses small (Rate.ofNumber?_eq_none unsupported) apart'), rfl⟩

theorem Taken.stands (taken : Taken whole slot read rate) : Stands whole slot read rate := by
  intro front
  constructor
  · intro awaits
    obtain ⟨back, before, apart, reads⟩ := awaits.completes
    refine ⟨back, apart, .baud300, by decide, fun named _ => ?_⟩
    obtain ⟨config, made⟩ := taken.makes _ _ (reads named) (by rw [Slot.rate?_put]; rfl)
    obtain ⟨found, again, given⟩ := taken.found _ _ made
    obtain rfl := Except.ok.inj ((reads named).symm.trans again)
    rw [Slot.rate?_put] at given
    exact ⟨config, made, given.symm⟩
  · rintro ⟨back, apart, tells⟩
    exact taken.awaits apart tells

end Taken

theorem rate_taken : Taken .lineRate .line Rate.ofText id where
  found text rate read := by
    obtain ⟨⟨lineRate, targetRate, attempts⟩, held, returned⟩ := bind_ok read
    refine ⟨_, held, ?_⟩
    cases lineRate with
    | none => cases returned
    | some written => exact Except.ok.inj returned
  makes text found held given := by
    obtain ⟨rate, written⟩ := Option.isSome_iff_exists.mp given
    obtain ⟨lineRate, targetRate, attempts⟩ := found
    obtain rfl : lineRate = some rate := written
    refine ⟨rate, ?_⟩
    rw [Rate.ofText, held]
    rfl
  fails text fault failed := by
    rw [Rate.ofText, failed]
    rfl

theorem settings_taken {settings : Found → α} {rate : α → Rate} (whole : Place) (slot : Slot)
    (given : ∀ found, (slot.rate? found).getD slot.fallback = rate (settings found)) :
    Taken whole slot (fun text => do return settings (← Reader.read whole text)) rate where
  found text config read := by
    obtain ⟨found, held, rfl⟩ := found_of_read read
    exact ⟨found, held, given found⟩
  makes text found held _ := by
    rw [held]
    exact ⟨_, rfl⟩
  fails text fault failed := by
    rw [failed]
    rfl

theorem serial_taken : Taken (.group .serial) .line SerialConfig.ofText (·.rate) :=
  settings_taken _ _ fun _ => rfl

theorem probe_taken : Taken (.group .probe) .target Probe.ofText (·.target) :=
  settings_taken _ _ fun _ => rfl

theorem tool_taken : Taken (.group .tool) .line ToolConfig.ofText (·.serial.rate) ∧
    Taken (.group .tool) .target ToolConfig.ofText (·.probe.target) :=
  ⟨settings_taken _ _ fun _ => rfl, settings_taken _ _ fun _ => rfl⟩

/-- **A number that is no rate is reported wherever a rate stands,** in each kind of configuration,
whatever follows it; and a rate stands where the reader has come to look for one. -/
theorem unsupported_reported :
    Reports Rate.ofText id ∧ Reports SerialConfig.ofText (·.rate) ∧
    Reports Probe.ofText (·.target) ∧
    Reports ToolConfig.ofText (·.serial.rate) ∧ Reports ToolConfig.ofText (·.probe.target) ∧
    Stands .lineRate .line Rate.ofText id ∧
    Stands (.group .serial) .line SerialConfig.ofText (·.rate) ∧
    Stands (.group .probe) .target Probe.ofText (·.target) ∧
    Stands (.group .tool) .line ToolConfig.ofText (·.serial.rate) ∧
    Stands (.group .tool) .target ToolConfig.ofText (·.probe.target) :=
  ⟨rate_taken.reports, serial_taken.reports, probe_taken.reports, tool_taken.1.reports,
    tool_taken.2.reports, rate_taken.stands, serial_taken.stands, probe_taken.stands,
    tool_taken.1.stands, tool_taken.2.stands⟩

/-- Behind a member to skip, in an array form, with nothing closed afterwards. -/
theorem unsupported_reported_nested :
    ToolConfig.ofText ("\x7b\"note\":[1,\x7b\x7d],\"probe\":[" ++ toString 4800 ++ "!") =
      .error (.unsupportedRate 4800) := by
  have tells : Tells ToolConfig.ofText (·.probe.target) "\x7b\"note\":[1,\x7b\x7d],\"probe\":["
      ",3]\x7d" := by
    refine ⟨.baud300, nofun, fun named among => ?_⟩
    simp only [List.mem_cons, List.not_mem_nil, or_false] at among
    rcases among with rfl | rfl
    · exact ⟨⟨⟨.baud2400⟩, ⟨.baud2400, 3⟩⟩, by decide, rfl⟩
    · exact ⟨⟨⟨.baud2400⟩, ⟨.baud300, 3⟩⟩, by decide, rfl⟩
  exact (unsupported_reported.2.2.2.2.1 _ _ (by decide) tells 4800 (by decide) (by decide) "!"
    (by decide)).1

end Reports

end Config

end MeterBus
