import MeterBus.Config.Reader
import MeterBus.Proofs.Config.Scanning
import MeterBus.Proofs.Results

/-! # Values and what the reader makes of them

JSON values as the tokens they consist of. From whatever state it is in, the reader gets over a
value that may stand there and has found something by it; over a value nobody asked for it gets
without having found anything.

* `Value`: the JSON values.
* `Reads`: what the reader finds in a value.
* `Members.reads`, `Items.reads`: objects and arrays, out of what their parts come to.
* `Value.skipped`: any value, where anything may stand.
-/
namespace MeterBus.Config
set_option autoImplicit false

/-! ## Values -/

/-- The lists of tokens with a comma between each two. -/
def separated : List (List Token) → List Token
  | [] => []
  | first :: rest => first ++ rest.flatMap (Token.comma :: ·)

def arrayOf (values : List (List Token)) : List Token :=
  .openBracket :: (separated values ++ [.closeBracket])

/-- A member of an object: its name and its value. -/
abbrev Member := Option String × List Token

def Member.tokens (entry : Member) : List Token := .text entry.1 :: .colon :: entry.2

def objectOf (members : List Member) : List Token :=
  .openBrace :: (separated (members.map Member.tokens) ++ [.closeBrace])

/-- The JSON values. -/
inductive Value : List Token → Prop
  | word : Value [.word]
  | integer (value : Nat) : Value [.integer value]
  | number : Value [.number]
  | text (content : Option String) : Value [.text content]
  | array {values : List (List Token)} (each : ∀ value ∈ values, Value value) :
    Value (arrayOf values)
  | object {members : List Member} (each : ∀ entry ∈ members, Value entry.2) :
    Value (objectOf members)

/-! ### Numbers apart -/

theorem Loose.append {front behind : List Token} (first : Loose front) (second : Loose behind)
    (mark : ∀ token ∈ behind.head?, token.isNumeric = false) : Loose (front ++ behind) := by
  refine List.isChain_append.mpr ⟨first, second, ?_⟩
  rintro last - next member ⟨-, numeric⟩
  rw [mark next member] at numeric
  cases numeric

theorem Loose.mark {token : Token} {behind : List Token} (mark : token.isNumeric = false)
    (second : Loose behind) : Loose (token :: behind) := by
  refine List.isChain_cons.mpr ⟨?_, second⟩
  rintro next - ⟨numeric, -⟩
  rw [mark] at numeric
  cases numeric

theorem loose_singleton (token : Token) : Loose [token] := List.isChain_singleton token

section

variable {values : List (List Token)} (each : ∀ value ∈ values, Loose value) {close : Token}
  (mark : close.isNumeric = false)
include each mark

theorem Loose.listed {front : List Token} (first : Loose front) :
    Loose (front ++ (values.flatMap (Token.comma :: ·) ++ [close])) := by
  -- each value is taken over to the front together with its comma
  induction values generalizing front with
  | nil =>
    refine first.append (loose_singleton close) ?_
    rintro _ ⟨⟩
    exact mark
  | cons value values ih =>
    rw [List.flatMap_cons, List.append_assoc, ← List.append_assoc]
    apply ih fun other member => each other (List.mem_cons_of_mem value member)
    refine first.append ((each value List.mem_cons_self).mark rfl) ?_
    rintro _ ⟨⟩
    rfl

theorem loose_separated : Loose (separated values ++ [close]) := by
  cases values with
  | nil => exact loose_singleton close
  | cons value values =>
    rw [separated, List.append_assoc]
    exact Loose.listed (fun other member => each other (List.mem_cons_of_mem value member)) mark
      (each value List.mem_cons_self)

end

theorem Value.loose {tokens : List Token} (value : Value tokens) : Loose tokens := by
  induction value with
  | word | integer | number | text => exact loose_singleton _
  | array each ih => exact (loose_separated ih rfl).mark rfl
  | object each ih =>
    refine (loose_separated ?_ rfl).mark rfl
    intro tokens among
    obtain ⟨entry, member, rfl⟩ := List.mem_map.mp among
    exact ((ih entry member).mark rfl).mark rfl

/-! ## Courses of the reader -/

/-- What is found now, and before that where nothing is found now. -/
def Found.or (now before : Found) : Found where
  lineRate := now.lineRate.or before.lineRate
  targetRate := now.targetRate.or before.targetRate
  attempts := now.attempts.or before.attempts

/-- Over these tokens the reader gets from one state to another. -/
def Reader.Goes (reader : Reader) (tokens : List Token) (next : Reader) : Prop :=
  tokens.foldlM Reader.step reader = .ok next

/-- Wherever a value of this kind is due, the reader gets over these tokens and finds this. -/
def Reads (place : Place) (tokens : List Token) (now : Found) : Prop :=
  ∀ found nest, Reader.Goes { found, nest, await := .value place } tokens
    { found := now.or found, nest, await := .delimiter }

namespace Found

variable (first second third : Found)

theorem or_assoc : (first.or second).or third = first.or (second.or third) := by
  simp only [Found.or, Option.or_assoc]

@[simp] theorem empty_or : Found.or {} first = first := by
  simp only [Found.or, Option.none_or]

@[simp] theorem or_empty : first.or {} = first := by
  simp only [Found.or, Option.or_none]

end Found

namespace Reader

variable {reader middle next : Reader} {tokens more : List Token} {token : Token}

theorem Goes.trans (first : reader.Goes tokens middle) (second : middle.Goes more next) :
    reader.Goes (tokens ++ more) next := by
  rw [Goes, List.foldlM_append, first]
  exact second

theorem Goes.cons (stepped : reader.step token = .ok middle) (later : middle.Goes tokens next) :
    reader.Goes (token :: tokens) next := by
  rw [Goes, List.foldlM_cons, stepped]
  exact later

theorem Goes.split (course : reader.Goes (tokens ++ more) next) :
    ∃ middle, reader.Goes tokens middle ∧ middle.Goes more next := by
  rw [Goes, List.foldlM_append] at course
  exact bind_ok course

theorem Goes.uncons (course : reader.Goes (token :: tokens) next) :
    ∃ middle, reader.step token = .ok middle ∧ middle.Goes tokens next := by
  rw [Goes, List.foldlM_cons] at course
  exact bind_ok course

theorem Goes.of_step (stepped : reader.step token = .ok next) : reader.Goes [token] next :=
  .cons stepped rfl

theorem value_await (await : Await) (place : Place) :
    ({ reader with await } : Reader).value place token = reader.value place token := by
  cases place <;> cases token <;> rfl

end Reader

open Reader (Goes)

/-! ### Arrays -/

/-- What the next value of an array has to be, and what is expected behind it. -/
inductive Due : Option (List Place) → Place → Option (List Place) → Prop
  | anything : Due none .anything none
  | next (place : Place) (rest : List Place) : Due (some (place :: rest)) place (some rest)

/-- The values of an array, as far as it is expected to go, and what is found in them. -/
inductive Items : Option (List Place) → List (List Token) → Found → Prop
  | done {places : Option (List Place)} : Items places [] {}
  | item {places rest : Option (List Place)} {place : Place} {value : List Token}
    {values : List (List Token)} {now later : Found} (due : Due places place rest)
    (reads : Reads place value now) (behind : Items rest values later) :
    Items places (value :: values) (later.or now)

section Arrays

variable {places rest : Option (List Place)} {place : Place} {tokens : List Token}
  {values : List (List Token)} {now total : Found}

theorem Due.item (due : Due places place rest) (found : Found) (nest : List Nest) (await : Await) :
    Reader.item { found, nest := .array places :: nest, await } =
      .ok ({ found, nest := .array rest :: nest, await }, place) := by
  cases due <;> rfl

/-- No value is empty or begins with a closing bracket. -/
theorem Reads.begins (reads : Reads place tokens now) :
    ∃ token rest, tokens = token :: rest ∧ token ≠ .closeBracket := by
  have course := reads {} []
  cases tokens with
  | nil => exact nomatch congrArg Reader.await (Except.ok.inj course)
  | cons token rest =>
    refine ⟨token, rest, rfl, ?_⟩
    rintro rfl
    rw [Goes, List.foldlM_cons] at course
    cases place <;> cases course

theorem Due.first_step (due : Due places place rest) {token : Token} (other : token ≠ .closeBracket)
    (found : Found) (nest : List Nest) :
    Reader.step { found, nest := .array places :: nest, await := .firstItem } token =
      Reader.step { found, nest := .array rest :: nest, await := .value place } token := by
  have item := due.item found nest .firstItem
  have step : Reader.step { found, nest := .array places :: nest, await := .firstItem } token =
      (Reader.item { found, nest := .array places :: nest, await := .firstItem } >>=
        fun made => made.1.value made.2 token) := by
    cases token with
    | closeBracket => exact absurd rfl other
    | _ => rfl
  rw [step, item]
  exact (Reader.value_await (.value place) place).symm

/-- A value is read the same way as the first one of an array. -/
theorem Reads.first (reads : Reads place tokens now) (due : Due places place rest) (found : Found)
    (nest : List Nest) :
    Goes { found, nest := .array places :: nest, await := .firstItem } tokens
      { found := now.or found, nest := .array rest :: nest, await := .delimiter } := by
  have course := reads found (.array rest :: nest)
  obtain ⟨token, behind, rfl, other⟩ := reads.begins
  rw [Goes, List.foldlM_cons] at course ⊢
  rw [due.first_step other, course]

theorem Due.comma_step (due : Due places place rest) (found : Found) (nest : List Nest) :
    Reader.step { found, nest := .array places :: nest, await := .delimiter } .comma =
      .ok { found, nest := .array rest :: nest, await := .value place } := by
  cases due <;> rfl

theorem Items.tail (items : Items places values total) (found : Found) (nest : List Nest) :
    Goes { found, nest := .array places :: nest, await := .delimiter }
      (values.flatMap (Token.comma :: ·) ++ [.closeBracket])
      { found := total.or found, nest, await := .delimiter } := by
  induction items generalizing found with
  | done =>
    rw [Found.empty_or]
    exact .of_step rfl
  | item due reads behind ih =>
    rw [List.flatMap_cons, List.append_assoc, Found.or_assoc]
    exact .cons (due.comma_step found nest) ((reads found _).trans (ih _))

/-- An array, where its opening bracket leads to values that are expected to go this far. -/
theorem Items.reads (items : Items places values total)
    (opens : ∀ found nest, Reader.step { found, nest, await := .value place } .openBracket =
      .ok { found, nest := .array places :: nest, await := .firstItem }) :
    Reads place (arrayOf values) total := by
  intro found nest
  refine .cons (opens found nest) ?_
  cases items with
  | done =>
    rw [Found.empty_or]
    exact .of_step rfl
  | item due reads behind =>
    rw [separated, List.append_assoc, Found.or_assoc]
    exact (reads.first due found nest).trans (behind.tail _ nest)

end Arrays

/-! ### Objects -/

/-- What the value of a member has to be, and which members have been seen then. -/
inductive Naming : Option Group → List String → Option String → Place → List String → Prop
  | anything (seen : List String) (name : Option String) : Naming none seen name .anything seen
  | other {group : Group} (seen : List String) {name : String}
    (unknown : group.members.lookup name = none) :
    Naming (some group) seen (some name) .anything seen
  | known {group : Group} {seen : List String} {name : String} {place : Place}
    (known : group.members.lookup name = some place) (fresh : name ∉ seen) :
    Naming (some group) seen (some name) place (name :: seen)

/-- The members of an object behind those that have been seen, and what is found in them. -/
inductive Members : Option Group → List String → List Member → Found → Prop
  | done {group : Option Group} {seen : List String} : Members group seen [] {}
  | member {group : Option Group} {seen further : List String} {entry : Member} {place : Place}
    {members : List Member} {now later : Found} (naming : Naming group seen entry.1 place further)
    (reads : Reads place entry.2 now) (behind : Members group further members later) :
    Members group seen (entry :: members) (later.or now)

section Objects

variable {group : Option Group} {seen further : List String} {name : Option String} {place : Place}
  {entry : Member} {members : List Member} {now total : Found}

theorem Naming.step (naming : Naming group seen name place further) (found : Found)
    (nest : List Nest) (await : Await) :
    Reader.name { found, nest := .object group seen :: nest, await } name =
      .ok { found, nest := .object group further :: nest, await := .colon place } := by
  cases naming with
  | anything => rfl
  | other _ unknown => simp only [Reader.name, unknown]
  | known known fresh => simp only [Reader.name, known, List.contains_iff_mem, fresh, if_false]

/-- A member, wherever one may stand. -/
theorem Reads.member (reads : Reads place entry.2 now)
    (naming : Naming group seen entry.1 place further) {await : Await}
    (due : await = .firstMember ∨ await = .member) (found : Found) (nest : List Nest) :
    Goes { found, nest := .object group seen :: nest, await } entry.tokens
      { found := now.or found, nest := .object group further :: nest, await := .delimiter } := by
  have colon : Goes { found, nest := .object group further :: nest, await := .colon place }
      (.colon :: entry.2) _ := .cons rfl (reads found _)
  rcases due with rfl | rfl <;> exact .cons (naming.step found nest _) colon

theorem Members.tail (listed : Members group seen members total) (found : Found)
    (nest : List Nest) :
    Goes { found, nest := .object group seen :: nest, await := .delimiter }
      ((members.map Member.tokens).flatMap (Token.comma :: ·) ++ [.closeBrace])
      { found := total.or found, nest, await := .delimiter } := by
  induction listed generalizing found with
  | done =>
    rw [Found.empty_or]
    exact .of_step rfl
  | member naming reads behind ih =>
    rw [List.map_cons, List.flatMap_cons, List.append_assoc, Found.or_assoc]
    exact .cons rfl ((reads.member naming (.inr rfl) found nest).trans (ih _))

/-- An object, where its opening brace leads to the members of this group or of none. -/
theorem Members.reads (listed : Members group [] members total)
    (opens : ∀ found nest, Reader.step { found, nest, await := .value place } .openBrace =
      .ok { found, nest := .object group [] :: nest, await := .firstMember }) :
    Reads place (objectOf members) total := by
  intro found nest
  refine .cons (opens found nest) ?_
  cases listed with
  | done =>
    rw [Found.empty_or]
    exact .of_step rfl
  | member naming reads behind =>
    rw [List.map_cons, separated, List.append_assoc, Found.or_assoc]
    exact (reads.member naming (.inl rfl) found nest).trans (behind.tail _ nest)

end Objects

/-! ### Anything -/

theorem items_anything {values : List (List Token)}
    (each : ∀ value ∈ values, Reads .anything value {}) : Items none values {} := by
  induction values with
  | nil => exact .done
  | cons value values ih =>
    exact .item .anything (each value List.mem_cons_self)
      (ih fun other member => each other (List.mem_cons_of_mem value member))

theorem members_anything {members : List Member} (seen : List String)
    (each : ∀ entry ∈ members, Reads .anything entry.2 {}) : Members none seen members {} := by
  induction members with
  | nil => exact .done
  | cons entry members ih =>
    exact .member (.anything seen entry.1) (each entry List.mem_cons_self)
      (ih fun other member => each other (List.mem_cons_of_mem entry member))

/-- **A value that nobody asked for is skipped,** whatever it holds. -/
theorem Value.skipped {tokens : List Token} (value : Value tokens) : Reads .anything tokens {} := by
  induction value with
  | word | integer | number | text =>
    intro found nest
    rw [Found.empty_or]
    exact .of_step rfl
  | array each ih => exact (items_anything ih).reads fun _ _ => rfl
  | object each ih => exact (members_anything [] ih).reads fun _ _ => rfl

end MeterBus.Config
