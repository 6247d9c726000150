import MeterBus.Proofs.Config.Settings

/-! # Texts of settings

Settings are read from every text of every way of writing them, and the text they are written as is
one of these.

* `serial_written`, `probe_written`, `tool_written`: compact texts.
* `Reader.read_bounded`: no count that is read has more than 64 bits.
* `settings_faithful`: writing and reading.
-/
namespace MeterBus
set_option autoImplicit false

namespace Config

/-! ## Texts that are read -/

section Texts

variable {tokens : List Token} {text : String}

/-- What the reader finds in the tokens of a value it finds in every text of the value. -/
theorem Reads.read {place : Place} {total : Found} (reads : Reads place tokens total)
    (value : Value tokens) (laid : Laid tokens text.toList) :
    Reader.read place text = .ok total := by
  have course := reads {} []
  rw [Found.or_empty] at course
  rw [Reader.read, Token.scan, laid.scan value.loose, course]
  rfl

theorem serial_read {config : SerialConfig} (form : SerialConfig.Form tokens config)
    (laid : Laid tokens text.toList) : SerialConfig.ofText text = .ok config := by
  obtain ⟨total, reads, -, rfl⟩ := serial_reads form
  rw [SerialConfig.ofText, reads.read (serial_value form) laid]
  rfl

theorem probe_read {probe : Probe} (form : Probe.Form tokens probe)
    (laid : Laid tokens text.toList) : Probe.ofText text = .ok probe := by
  obtain ⟨total, reads, -, rfl⟩ := probe_reads form
  rw [Probe.ofText, reads.read (probe_value form) laid]
  rfl

theorem tool_read {config : ToolConfig} (form : ToolConfig.Form tokens config)
    (laid : Laid tokens text.toList) : ToolConfig.ofText text = .ok config := by
  obtain ⟨total, reads, rfl⟩ := tool_reads form
  rw [ToolConfig.ofText, reads.read (tool_value form) laid]
  rfl

end Texts

/-! ## Texts that are written -/

section Compact

variable {tokens more : List Token} {name other text rest : String}
  (plain : name.toList.all isPlain = true) (plain' : other.toList.all isPlain = true)
  (laid : Laid tokens text.toList) (laid' : Laid more rest.toList)

theorem laid_integer (value : Nat) : Laid [.integer value] (toString value).toList := by
  have digits : (toString value).toList = Nat.toDigits 10 value ++ [] := by
    rw [List.append_nil]
    exact Nat.toList_repr
  rw [digits]
  exact .cons (.integer value) .nil

include plain laid

theorem laid_single :
    Laid (objectOf (named [(name, tokens)]))
      ("\x7b" ++ ("\"" ++ name ++ "\":") ++ text ++ "\x7d").toList := by
  have all := Laid.cons .openBrace <| .cons (spelled_plain plain) <| .cons .colon <|
    laid.append (.cons .closeBrace .nil)
  simpa [objectOf, named, separated, Member.tokens] using all

include plain' laid'

theorem laid_pair :
    Laid (objectOf (named [(name, tokens), (other, more)]))
      ("\x7b" ++ ("\"" ++ name ++ "\":") ++ text ++ ("," ++ ("\"" ++ other ++ "\":")) ++ rest ++
        "\x7d").toList := by
  have second := Laid.cons .comma <| .cons (spelled_plain plain') <| .cons .colon <|
    laid'.append (.cons .closeBrace .nil)
  have all := Laid.cons .openBrace <| .cons (spelled_plain plain) <| .cons .colon <|
    laid.append second
  simpa [objectOf, named, separated, Member.tokens] using all

end Compact

theorem serial_written (config : SerialConfig) :
    ∃ tokens, SerialConfig.Form tokens config ∧ Laid tokens config.text.toList := by
  have given : Field IsRate "baudrate" .baud2400 [("baudrate", [.integer config.rate.number])]
      config.rate := .here rfl nofun
  -- the same text, cut at the quotation marks of its names
  have text : config.text =
      "\x7b" ++ ("\"" ++ "baudrate" ++ "\":") ++ config.rate.text ++ "\x7d" := rfl
  refine ⟨_, .object given (by simp), ?_⟩
  rw [text]
  exact laid_single rfl (laid_integer config.rate.number)

theorem probe_written (probe : Probe) (small : probe.attempts < UInt64.size) :
    ∃ tokens, Probe.Form tokens probe ∧ Laid tokens probe.text.toList := by
  let entries : List Entry := [("target_baudrate", [.integer probe.target.number]),
    ("attempts", [.integer probe.attempts])]
  have target : Field IsRate "target_baudrate" .baud9600 entries probe.target := .here rfl (by simp)
  have attempts : Field IsCount "attempts" 10 entries probe.attempts :=
    .other (by simp) (.here ⟨rfl, small⟩ nofun)
  have text : probe.text = "\x7b" ++ ("\"" ++ "target_baudrate" ++ "\":") ++ probe.target.text ++
      ("," ++ ("\"" ++ "attempts" ++ "\":")) ++ toString probe.attempts ++ "\x7d" := rfl
  refine ⟨_, .object ⟨target, attempts⟩ (by simp [entries]), ?_⟩
  rw [text]
  exact laid_pair rfl rfl (laid_integer probe.target.number)
    (laid_integer probe.attempts)

theorem tool_written (config : ToolConfig) (small : config.probe.attempts < UInt64.size) :
    ∃ tokens, ToolConfig.Form tokens config ∧ Laid tokens config.text.toList := by
  obtain ⟨one, serial, laid⟩ := serial_written config.serial
  obtain ⟨two, probe, laid'⟩ := probe_written config.probe small
  let entries : List Entry := [("serial", one), ("probe", two)]
  have first : Field SerialConfig.Form "serial" ⟨.baud2400⟩ entries config.serial :=
    .here serial (by simp)
  have second : Field Probe.Form "probe" ⟨.baud9600, 10⟩ entries config.probe :=
    .other (by simp) (.here probe nofun)
  have text : config.text = "\x7b" ++ ("\"" ++ "serial" ++ "\":") ++ config.serial.text ++
      ("," ++ ("\"" ++ "probe" ++ "\":")) ++ config.probe.text ++ "\x7d" := rfl
  refine ⟨_, .object ⟨first, second⟩ (by simp [entries]), ?_⟩
  rw [text]
  exact laid_pair rfl rfl laid laid'

/-! ## Counts that were read -/

/-- The count of attempts, if one was found, has 64 bits. -/
def Found.Bounded (found : Found) : Prop := ∀ count ∈ found.attempts, count < UInt64.size

namespace Reader

variable {reader next : Reader} {token : Token}

theorem value_bounded {place : Place} (bounded : reader.found.Bounded)
    (stepped : reader.value place token = .ok next) : next.found.Bounded := by
  unfold value at stepped
  split at stepped
  case h_1 | h_2 =>
    obtain ⟨rate, -, passed⟩ := bind_ok stepped
    cases passed
    exact bounded
  case h_3 number =>
    split at stepped
    case isTrue small =>
      cases stepped
      rintro count ⟨⟩
      exact small
    case isFalse => cases stepped
  all_goals
    cases stepped
    try exact bounded

theorem item_found {made : Reader × Place} (stepped : reader.item = .ok made) :
    made.1.found = reader.found := by
  unfold item at stepped
  split at stepped <;> cases stepped <;> rfl

theorem name_found {content : Option String} (stepped : reader.name content = .ok next) :
    next.found = reader.found := by
  unfold name at stepped
  repeat' split at stepped
  all_goals
    cases stepped
    try rfl

theorem delimiter_found (stepped : reader.delimiter token = .ok next) :
    next.found = reader.found := by
  unfold delimiter at stepped
  split at stepped
  case h_3 =>
    obtain ⟨made, taken, returned⟩ := bind_ok stepped
    cases returned
    exact item_found taken
  all_goals
    cases stepped
    try rfl

/-- A count that is found is one of 64 bits. -/
theorem step_bounded (bounded : reader.found.Bounded) (stepped : reader.step token = .ok next) :
    next.found.Bounded := by
  unfold step at stepped
  split at stepped
  · exact value_bounded bounded stepped
  · cases stepped
    exact bounded
  · rwa [name_found stepped]
  · rwa [name_found stepped]
  · cases stepped
    exact bounded
  · cases stepped
    exact bounded
  · obtain ⟨made, taken, valued⟩ := bind_ok stepped
    exact value_bounded (by rwa [item_found taken]) valued
  · rwa [delimiter_found stepped]
  · cases stepped

theorem Goes.bounded {tokens : List Token} (course : reader.Goes tokens next)
    (bounded : reader.found.Bounded) : next.found.Bounded := by
  induction tokens generalizing reader with
  | nil =>
    cases course
    exact bounded
  | cons token tokens ih =>
    obtain ⟨middle, stepped, later⟩ := course.uncons
    exact ih later (step_bounded bounded stepped)

theorem settle_found {found : Found} (settled : reader.settle = .ok found) :
    reader.found = found := by
  unfold settle at settled
  split at settled
  · exact Except.ok.inj settled
  · exact nomatch settled

theorem read_bounded {place : Place} {text : String} {found : Found}
    (read : Reader.read place text = .ok found) : found.Bounded := by
  obtain ⟨last, course, settled⟩ := bind_ok read
  rw [← settle_found settled]
  exact Goes.bounded course nofun

end Reader

/-! ## Writing and reading -/

/-- What writing and reading settings owe each other: what is written is read back, every way of
writing settings is read as these settings, and only proper settings are read, again from the text
they are written as. -/
structure Faithful {α : Type} (write : α → String) (read : String → Except Config.Fault α)
    (form : List Token → α → Prop) (proper : α → Prop) : Prop where
  back : ∀ config, proper config → read (write config) = .ok config
  layout : ∀ tokens config, form tokens config →
    ∀ text : String, Laid tokens text.toList → read text = .ok config
  again : ∀ text config, read text = .ok config → proper config ∧ read (write config) = .ok config

end Config

/-- The rate is one of those a line can be driven at. -/
def Rate.Supported (rate : Rate) : Prop := rate.number ∈ [300, 1200, 2400, 9600]

theorem Rate.supported (rate : Rate) : rate.Supported := by
  cases rate <;> simp [Supported, number]

def SerialConfig.Proper (config : SerialConfig) : Prop := config.rate.Supported

def Probe.Proper (probe : Probe) : Prop := probe.target.Supported ∧ probe.attempts < UInt64.size

def ToolConfig.Proper (config : ToolConfig) : Prop := config.serial.Proper ∧ config.probe.Proper

namespace Config

theorem Found.Bounded.probe {found : Found} (bounded : found.Bounded) : found.probe.Proper := by
  refine ⟨Rate.supported _, ?_⟩
  show found.attempts.getD 10 < UInt64.size
  cases attempts : found.attempts with
  | none => decide
  | some count => exact bounded count attempts

/-- What is read is put together from what was found. -/
theorem found_of_read {α : Type} {settings : Found → α} {place : Place} {text : String} {config : α}
    (read : (do return settings (← Reader.read place text)) = Except.ok config) :
    ∃ found, Reader.read place text = .ok found ∧ settings found = config := by
  obtain ⟨found, held, returned⟩ := bind_ok read
  exact ⟨found, held, Except.ok.inj returned⟩

theorem probe_proper {text : String} {probe : Probe} (read : Probe.ofText text = .ok probe) :
    probe.Proper := by
  obtain ⟨found, held, rfl⟩ := found_of_read read
  exact (Reader.read_bounded held).probe

theorem tool_proper {text : String} {config : ToolConfig}
    (read : ToolConfig.ofText text = .ok config) : config.Proper := by
  obtain ⟨found, held, rfl⟩ := found_of_read read
  exact ⟨Rate.supported _, (Reader.read_bounded held).probe⟩

theorem Faithful.of_written {α : Type} {write : α → String} {read : String → Except Config.Fault α}
    {form : List Token → α → Prop} {proper : α → Prop}
    (written : ∀ config, proper config →
      ∃ tokens, form tokens config ∧ Laid tokens (write config).toList)
    (layout : ∀ tokens config, form tokens config →
      ∀ text : String, Laid tokens text.toList → read text = .ok config)
    (yields : ∀ text config, read text = .ok config → proper config) :
    Faithful write read form proper := by
  have back : ∀ config, proper config → read (write config) = .ok config := by
    intro config fits
    obtain ⟨tokens, form, laid⟩ := written config fits
    exact layout tokens config form _ laid
  refine ⟨back, layout, fun text config read => ?_⟩
  have fits := yields text config read
  exact ⟨fits, back config fits⟩

/-- **Settings are read as they were meant, however they are laid out,** and from the text they are
written as. -/
theorem settings_faithful :
    Faithful SerialConfig.text SerialConfig.ofText SerialConfig.Form SerialConfig.Proper ∧
    Faithful Probe.text Probe.ofText Probe.Form Probe.Proper ∧
    Faithful ToolConfig.text ToolConfig.ofText ToolConfig.Form ToolConfig.Proper := by
  refine ⟨.of_written ?_ ?_ ?_, .of_written ?_ ?_ ?_, .of_written ?_ ?_ ?_⟩
  · exact fun config _ => serial_written config
  · exact fun tokens config form text => serial_read form
  · exact fun text config _ => config.rate.supported
  · exact fun probe proper => probe_written probe proper.2
  · exact fun tokens probe form text => probe_read form
  · exact fun text probe => probe_proper
  · exact fun config proper => tool_written config proper.2.2
  · exact fun tokens config form text => tool_read form
  · exact fun text config => tool_proper

/-- A probe as an array of its rate alone, behind a member of an unknown name, with blanks and an
escape. -/
theorem settings_faithful_array :
    let config : ToolConfig := ⟨⟨.baud2400⟩, ⟨.baud300, 10⟩⟩
    ToolConfig.ofText "\x7b\"note\": [null, -1.5],\n\"\\u0070robe\":[300]\x7d" = .ok config ∧
      ToolConfig.ofText config.text = .ok config := by
  intro config
  let entries : List Entry :=
    [("note", arrayOf [[.word], [.number]]), ("probe", arrayOf [[.integer 300]])]
  have form : ToolConfig.Form (objectOf (named entries)) config := by
    have target : Field IsRate "target_baudrate" .baud9600 [("target_baudrate", [.integer 300])]
        .baud300 := .here rfl nofun
    have probe : Probe.Form (arrayOf [[.integer 300]]) config.probe :=
      .array (by decide) ⟨target, .other (by simp) .absent⟩
    refine .object ⟨.other (by simp) (.other (by simp) .absent),
      .other (by simp) (.here probe nofun)⟩ ?_
    simp [entries, Value.word, Value.number, Value.array]
  have space : Blanks [' '] := by simp [Blanks]
  have line : Blanks ['\n'] := by simp [Blanks]
  have half : Fraction ['.', '5'] := .present ⟨nofun, by simp⟩
  have minus : Token.number.Spelled _ :=
    .number 1 (List.mem_cons_of_mem [] List.mem_cons_self) half .absent nofun
  have null : Token.word.Spelled "null".toList := .word (by simp)
  have note := spelled_plain (rfl : "note".toList.all isPlain = true)
  have zero : Hex '0' 0 := ⟨by decide, .inl rfl⟩
  have seven : Hex '7' 7 := ⟨by decide, .inl rfl⟩
  have pieces : Pieces [.unit 0x70, .char 'r', .char 'o', .char 'b', .char 'e'] _ :=
    .cons (.unit zero zero seven zero)
      (pieces_plain (rfl : ['r', 'o', 'b', 'e'].all isPlain = true)).1
  have laid := Laid.cons .openBrace <| .cons note <| .cons .colon <| .blank space <|
    .cons .openBracket <| .cons null <| .cons .comma <| .blank space <| .cons minus <|
    .cons .closeBracket <| .cons .comma <| .blank line <| .cons (.text pieces) <| .cons .colon <|
    .cons .openBracket <| .cons (.integer 300) <| .cons .closeBracket <| .cons .closeBrace <| .nil
  have proper : config.Proper := ⟨Rate.supported _, Rate.supported _, by simp [config, UInt64.size]⟩
  refine ⟨settings_faithful.2.2.layout _ _ form _ ?_, settings_faithful.2.2.back config proper⟩
  exact Eq.mp (congrArg₂ Laid rfl (by decide)) laid

end Config

end MeterBus
