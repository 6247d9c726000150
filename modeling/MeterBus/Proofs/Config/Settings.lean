import MeterBus.Config
import MeterBus.Proofs.Config.Values

/-! # Ways of writing settings

The members of a group may come in any order, among members of other names, and any of them may be
absent; or the values of a leading part of them stand in an array. Whichever way settings are
written, the reader finds them, with the defaults for what is absent.

* `Field`: a setting among the members of an object, by default or in its place.
* `SerialConfig.Form`, `Probe.Form`, `ToolConfig.Form`: the ways of writing settings.
* `serial_reads`, `probe_reads`, `tool_reads`: what the reader finds in them.
-/
namespace MeterBus
set_option autoImplicit false

namespace Config

/-! ## Forms -/

/-- A member with a proper name. -/
abbrev Entry := String × List Token

def named (entries : List Entry) : List Member := entries.map fun entry => (some entry.1, entry.2)

/-- A setting that the member of one name gives. Without such a member it has its default, and there
is not more than one. -/
inductive Field {α : Type} (form : List Token → α → Prop) (name : String) (default : α) :
    List Entry → α → Prop
  | absent : Field form name default [] default
  | other {entry : Entry} {rest : List Entry} {setting : α} (differs : entry.1 ≠ name)
    (behind : Field form name default rest setting) :
    Field form name default (entry :: rest) setting
  | here {value : List Token} {rest : List Entry} {setting : α} (given : form value setting)
    (once : ∀ entry ∈ rest, entry.1 ≠ name) :
    Field form name default ((name, value) :: rest) setting

/-- A group with members of these names is an object, in which members of other names hold anything,
or an array that stands for the object of a leading part of its members. -/
inductive Grouped {α : Type} (names : List String) (settled : List Entry → α → Prop) :
    List Token → α → Prop
  | object {entries : List Entry} {settings : α} (given : settled entries settings)
    (others : ∀ entry ∈ entries, entry.1 ∉ names → Value entry.2) :
    Grouped names settled (objectOf (named entries)) settings
  | array {values : List (List Token)} {settings : α} (leading : values.length ≤ names.length)
    (given : settled (names.zip values) settings) :
    Grouped names settled (arrayOf values) settings

def IsRate (tokens : List Token) (rate : Rate) : Prop := tokens = [.integer rate.number]

def IsCount (tokens : List Token) (count : Nat) : Prop :=
  tokens = [.integer count] ∧ count < UInt64.size

end Config

open Config

def SerialConfig.Form : List Token → SerialConfig → Prop :=
  Grouped ["baudrate"] fun entries config =>
    Field IsRate "baudrate" .baud2400 entries config.rate

def Probe.Form : List Token → Probe → Prop :=
  Grouped ["target_baudrate", "attempts"] fun entries probe =>
    Field IsRate "target_baudrate" .baud9600 entries probe.target ∧
      Field IsCount "attempts" 10 entries probe.attempts

def ToolConfig.Form : List Token → ToolConfig → Prop :=
  Grouped ["serial", "probe"] fun entries config =>
    Field SerialConfig.Form "serial" ⟨.baud2400⟩ entries config.serial ∧
      Field Probe.Form "probe" ⟨.baud9600, 10⟩ entries config.probe

namespace Config

/-! ## Fields and groups -/

section Fields

variable {α : Type} {form : List Token → α → Prop} {name : String} {default setting : α}
  {entries : List Entry}

theorem Field.of_absent (absent : ∀ entry ∈ entries, entry.1 ≠ name) :
    Field form name default entries default := by
  induction entries with
  | nil => exact .absent
  | cons entry entries ih =>
    exact .other (absent entry List.mem_cons_self)
      (ih fun other member => absent other (List.mem_cons_of_mem entry member))

/-- What the reader finds for a field. -/
theorem Field.read {place : Place} {meant : Found → α → Prop}
    (field : Field form name default entries setting)
    (reads : ∀ value setting, form value setting → ∃ now, Reads place value now ∧ meant now setting)
    (nothing : meant {} default) :
    ∃ now, Field (Reads place) name {} entries now ∧ meant now setting := by
  induction field with
  | absent => exact ⟨{}, .absent, nothing⟩
  | other differs behind ih =>
    obtain ⟨now, found, means⟩ := ih
    exact ⟨now, .other differs found, means⟩
  | here given once =>
    obtain ⟨now, read, means⟩ := reads _ _ given
    exact ⟨now, .here read once, means⟩

/-- A setting that is one of the things the reader looks for. -/
theorem Field.leaf {place : Place} (put : Option α → Found) (blank : put none = {})
    (field : Field form name default entries setting)
    (reads : ∀ value setting, form value setting → Reads place value (put (some setting))) :
    ∃ given : Option α, Field (Reads place) name {} entries (put given) ∧
      given.getD default = setting := by
  have read := @Field.read _ _ _ _ _ _ place
    (fun now setting => ∃ given, put given = now ∧ given.getD default = setting) field
    (fun value setting given => ⟨_, reads value setting given, some setting, rfl, rfl⟩)
    ⟨none, blank, rfl⟩
  obtain ⟨_, found, given, rfl, means⟩ := read
  exact ⟨given, found, means⟩

end Fields

section Groups

variable {group : Group} {entries : List Entry} {seen : List String} {first second : String}
  {one two : Place} {now later total : Found}

theorem lookup_foreign {name : String} (foreign : name ∉ group.members.map (·.1)) :
    group.members.lookup name = none := by
  rw [List.lookup_eq_none_iff]
  intro entry member
  rw [bne_iff_ne]
  rintro rfl
  exact foreign (List.mem_map_of_mem member)

/-- A member of another name changes nothing. -/
theorem Members.skip {entry : Entry} (foreign : entry.1 ∉ group.members.map (·.1))
    (value : Value entry.2) (behind : Members (some group) seen (named entries) total) :
    Members (some group) seen (named (entry :: entries)) total := by
  rw [← Found.or_empty total]
  exact .member (.other seen (lookup_foreign foreign)) value.skipped behind

theorem members_single (names : group.members.map (·.1) = [first])
    (known : group.members.lookup first = some one)
    (field : Field (Reads one) first {} entries now)
    (others : ∀ entry ∈ entries, entry.1 ∉ group.members.map (·.1) → Value entry.2)
    (fresh : ∀ entry ∈ entries, entry.1 ∉ seen) :
    Members (some group) seen (named entries) now := by
  induction entries generalizing now seen with
  | nil =>
    cases field
    exact .done
  | cons entry entries ih =>
    obtain ⟨fresh, freshRest⟩ := List.forall_mem_cons.mp fresh
    obtain ⟨other, othersRest⟩ := List.forall_mem_cons.mp others
    cases field with
    | other differs field =>
      have foreign : entry.1 ∉ group.members.map (·.1) := by simp [names, differs]
      exact .skip foreign (other foreign) (ih field othersRest freshRest)
    | here read once =>
      rw [← Found.empty_or now]
      refine .member (.known known fresh) read (ih (.of_absent once) othersRest ?_)
      exact fun entry member => by simp [once entry member, freshRest entry member]

/-- The members of a group of two, in either order. They are found in different places, so that the
order leaves no trace. -/
theorem members_pair (names : group.members.map (·.1) = [first, second]) (differ : first ≠ second)
    (known : group.members.lookup first = some one)
    (known' : group.members.lookup second = some two)
    (field : Field (Reads one) first {} entries now)
    (field' : Field (Reads two) second {} entries later)
    (others : ∀ entry ∈ entries, entry.1 ∉ group.members.map (·.1) → Value entry.2)
    (fresh : ∀ entry ∈ entries, entry.1 ∉ seen) (apart : now.or later = later.or now) :
    Members (some group) seen (named entries) (now.or later) := by
  induction entries generalizing now later seen with
  | nil =>
    cases field
    cases field'
    exact .done
  | cons entry entries ih =>
    obtain ⟨fresh, freshRest⟩ := List.forall_mem_cons.mp fresh
    obtain ⟨other, othersRest⟩ := List.forall_mem_cons.mp others
    cases field with
    | other differs field =>
      cases field' with
      | other differs' field' =>
        have foreign : entry.1 ∉ group.members.map (·.1) := by simp [names, differs, differs']
        exact .skip foreign (other foreign) (ih field field' othersRest freshRest apart)
      | here read once =>
        have freshNow : ∀ entry ∈ entries, entry.1 ∉ second :: seen :=
          fun entry member => by simp [once entry member, freshRest entry member]
        have alone := now.or_empty.trans now.empty_or.symm
        have behind := ih field (.of_absent once) othersRest freshNow alone
        rw [Found.or_empty] at behind
        exact .member (.known known' fresh) read behind
    | here read once =>
      cases field' with
      | here => exact absurd rfl differ
      | other differs' field' =>
        have freshNow : ∀ entry ∈ entries, entry.1 ∉ first :: seen :=
          fun entry member => by simp [once entry member, freshRest entry member]
        have alone := later.empty_or.trans later.or_empty.symm
        have behind := ih (.of_absent once) field' othersRest freshNow alone
        rw [Found.empty_or] at behind
        -- here the first of the two comes later, so it is found on top of the other
        rw [apart]
        exact .member (.known known fresh) read behind

/-- What an object of a leading part of the members comes to, the array of their values does. -/
theorem Members.items {table : List (String × Place)}
    (known : ∀ entry ∈ table, group.members.lookup entry.1 = some entry.2)
    {values : List (List Token)} (leading : values.length ≤ table.length)
    (listed : Members (some group) seen (named ((table.map (·.1)).zip values)) total) :
    Items (some (table.map (·.2))) values total := by
  induction table generalizing values seen total with
  | nil =>
    obtain rfl := List.eq_nil_of_length_eq_zero (Nat.le_zero.mp leading)
    cases listed
    exact .done
  | cons entry table ih =>
    cases values with
    | nil =>
      cases listed
      exact .done
    | cons value values =>
      obtain ⟨here, knownRest⟩ := List.forall_mem_cons.mp known
      cases listed with
      | member naming read behind =>
        cases naming with
        | other _ unknown => exact nomatch here.symm.trans unknown
        | known same fresh =>
          obtain rfl := Option.some.inj (here.symm.trans same)
          exact .item (.next _ _) read (ih knownRest (Nat.le_of_succ_le_succ leading) behind)

/-- A group, whether it is an object or an array. -/
theorem Grouped.reads {α : Type} {settled : List Entry → α → Prop} {meant : Found → α → Prop}
    (members : ∀ entries settings, settled entries settings →
      (∀ entry ∈ entries, entry.1 ∉ group.members.map (·.1) → Value entry.2) →
      ∃ total, Members (some group) [] (named entries) total ∧ meant total settings)
    {tokens : List Token} {settings : α}
    (grouped : Grouped (group.members.map (·.1)) settled tokens settings) :
    ∃ total, Reads (.group group) tokens total ∧ meant total settings := by
  cases grouped with
  | object given others =>
    obtain ⟨total, listed, means⟩ := members _ _ given others
    exact ⟨total, listed.reads fun _ _ => rfl, means⟩
  | array leading given =>
    obtain ⟨total, listed, means⟩ := members _ _ given fun entry member foreign =>
      absurd (List.of_mem_zip member).1 foreign
    have known : ∀ entry ∈ group.members, group.members.lookup entry.1 = some entry.2 := by
      cases group <;> decide
    rw [List.length_map] at leading
    exact ⟨total, (listed.items known leading).reads fun _ _ => rfl, means⟩

end Groups

/-! ## The three groups -/

theorem IsRate.reads {tokens : List Token} {rate : Rate} (form : IsRate tokens rate) :
    Reads .lineRate tokens { lineRate := some rate } ∧
      Reads .targetRate tokens { targetRate := some rate } := by
  subst form
  constructor <;> intro found nest <;> cases rate <;> exact .of_step rfl

theorem IsCount.reads {tokens : List Token} {count : Nat} (form : IsCount tokens count) :
    Reads .attempts tokens { attempts := some count } := by
  obtain ⟨rfl, small⟩ := form
  intro found nest
  refine .of_step ?_
  simp only [Reader.step, Reader.value, if_pos small]
  rfl

/-- The settings of the line and nothing else were found. -/
def SerialFound (found : Found) (config : SerialConfig) : Prop :=
  found = { lineRate := found.lineRate } ∧ found.serial = config

/-- The settings of the probe and nothing else were found. -/
def ProbeFound (found : Found) (probe : Probe) : Prop :=
  found = { targetRate := found.targetRate, attempts := found.attempts } ∧ found.probe = probe

section

variable {tokens : List Token}

theorem serial_reads {config : SerialConfig} (form : SerialConfig.Form tokens config) :
    ∃ total, Reads (.group .serial) tokens total ∧ SerialFound total config := by
  refine Grouped.reads ?_ form
  rintro entries ⟨rate⟩ given others
  obtain ⟨rate?, field, rfl⟩ := given.leaf (fun lineRate => { lineRate }) rfl
    fun value rate form => form.reads.1
  exact ⟨_, members_single rfl rfl field others (by simp), rfl, rfl⟩

theorem probe_reads {probe : Probe} (form : Probe.Form tokens probe) :
    ∃ total, Reads (.group .probe) tokens total ∧ ProbeFound total probe := by
  refine Grouped.reads ?_ form
  rintro entries ⟨target, attempts⟩ ⟨given, given'⟩ others
  obtain ⟨rate?, field, rfl⟩ := given.leaf (fun targetRate => { targetRate }) rfl
    fun value rate form => form.reads.2
  obtain ⟨count?, field', rfl⟩ := given'.leaf (fun attempts => { attempts }) rfl
    fun value count form => form.reads
  refine ⟨_, members_pair rfl (by decide) rfl rfl field field' others (by simp) ?_, ?_, ?_⟩ <;>
    cases rate? <;> cases count? <;> rfl

theorem tool_reads {config : ToolConfig} (form : ToolConfig.Form tokens config) :
    ∃ total, Reads (.group .tool) tokens total ∧ total.tool = config := by
  refine Grouped.reads ?_ form
  rintro entries ⟨serial, probe⟩ ⟨given, given'⟩ others
  obtain ⟨now, field, only, rfl⟩ := given.read (fun value config => serial_reads) ⟨rfl, rfl⟩
  obtain ⟨later, field', only', rfl⟩ := given'.read (fun value probe => probe_reads) ⟨rfl, rfl⟩
  refine ⟨_, members_pair rfl (by decide) rfl rfl field field' others (by simp) ?_, ?_⟩
  · rw [only, only']
    simp [Found.or]
  · rw [only, only']
    simp [Found.or, Found.tool, Found.serial, Found.probe]

end

/-! ## Forms are values -/

section Values

variable {α : Type} {form : List Token → α → Prop} {name : String} {default setting : α}
  {entries : List Entry} {tokens : List Token}

theorem Field.value (field : Field form name default entries setting)
    (each : ∀ value setting, form value setting → Value value) :
    ∀ entry ∈ entries, entry.1 = name → Value entry.2 := by
  induction field with
  | absent => exact nofun
  | other differs behind ih =>
    exact List.forall_mem_cons.mpr ⟨fun same => absurd same differs, ih⟩
  | here given once =>
    refine List.forall_mem_cons.mpr ⟨fun _ => each _ _ given, ?_⟩
    exact fun entry member same => absurd same (once entry member)

theorem Grouped.value {names : List String} {settled : List Entry → α → Prop}
    (grouped : Grouped names settled tokens setting)
    (each : ∀ entries setting, settled entries setting →
      ∀ entry ∈ entries, entry.1 ∈ names → Value entry.2) : Value tokens := by
  cases grouped with
  | object given others =>
    refine .object fun member among => ?_
    obtain ⟨entry, listed, rfl⟩ := List.mem_map.mp among
    by_cases known : entry.1 ∈ names
    · exact each _ _ given entry listed known
    · exact others entry listed known
  | @array values _ leading given =>
    refine .array fun value member => ?_
    rw [← List.map_snd_zip leading] at member
    obtain ⟨entry, listed, rfl⟩ := List.mem_map.mp member
    exact each _ _ given entry listed (List.of_mem_zip listed).1

theorem IsRate.value {rate : Rate} (form : IsRate tokens rate) : Value tokens := by
  subst form
  exact .integer rate.number

theorem IsCount.value {count : Nat} (form : IsCount tokens count) : Value tokens := by
  obtain ⟨rfl, -⟩ := form
  exact .integer count

theorem serial_value {config : SerialConfig} (form : SerialConfig.Form tokens config) :
    Value tokens := by
  refine Grouped.value form fun entries config field entry member known => ?_
  exact field.value (fun _ _ => IsRate.value) entry member (List.mem_singleton.mp known)

theorem probe_value {probe : Probe} (form : Probe.Form tokens probe) : Value tokens := by
  refine Grouped.value form fun entries probe fields entry member known => ?_
  simp only [List.mem_cons, List.not_mem_nil, or_false] at known
  rcases known with same | same
  · exact fields.1.value (fun _ _ => IsRate.value) entry member same
  · exact fields.2.value (fun _ _ => IsCount.value) entry member same

theorem tool_value {config : ToolConfig} (form : ToolConfig.Form tokens config) :
    Value tokens := by
  refine Grouped.value form fun entries config fields entry member known => ?_
  simp only [List.mem_cons, List.not_mem_nil, or_false] at known
  rcases known with same | same
  · exact fields.1.value (fun _ _ => serial_value) entry member same
  · exact fields.2.value (fun _ _ => probe_value) entry member same

end Values

end Config

end MeterBus
