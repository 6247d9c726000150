import MeterBus.Tool
import MeterBus.Proofs.Config.Unsupported

/-! # Settings in effect

The settings come from three sources: the options, the configuration file and the defaults. Each
setting takes the first source that has it, by itself. The file is read before the options are
looked at, so whatever is wrong with the file is reported first, and no option makes up for it.

* `Sets`, `Effective`: what the file sets, and what follows from it and the options.
* `Wrong`: the first thing that is wrong.
* `load_ok`, `load_error`, `Wrong.load`: the ends of loading.
* `load_effective`: the main result.
-/
namespace MeterBus.Tool
set_option autoImplicit false

/-! ## Sources -/

/-- What the file sets; without a file, nothing. -/
def Sets (files : Files) : Option String → Config.Found → Prop
  | none, found => found = {}
  | some path, found =>
    ∃ text, files path = .ok text ∧ Config.Reader.read (.group .tool) text = .ok found

theorem Sets.unique {files : Files} {config : Option String} {found other : Config.Found}
    (sets : Sets files config found) (again : Sets files config other) : found = other := by
  cases config with
  | none => exact Eq.trans sets again.symm
  | some path =>
    obtain ⟨text, readable, held⟩ := sets
    obtain ⟨text', readable', held'⟩ := again
    obtain rfl := Except.ok.inj (readable.symm.trans readable')
    exact Except.ok.inj (held.symm.trans held')

/-- The file, if there is to be one, can be read and holds a configuration. -/
def Usable (files : Files) (config : Option String) : Prop :=
  ∀ path ∈ config, ∃ text file, files path = .ok text ∧ ToolConfig.ofText text = .ok file

/-- The number, if there is one, is a rate. -/
def Supported (option : Option Nat) : Prop := ∀ number ∈ option, number ∈ [300, 1200, 2400, 9600]

/-- Each setting is that of its option, else that of the file, else the default. -/
structure Effective (arguments : Arguments) (found : Config.Found) (config : ToolConfig) : Prop where
  rate : config.serial.rate.number =
    arguments.baudrate.getD (found.lineRate.getD .baud2400).number
  target : config.probe.target.number =
    arguments.targetBaudrate.getD (found.targetRate.getD .baud9600).number
  attempts : config.probe.attempts = arguments.attempts.getD (found.attempts.getD 10)

theorem Effective.unique {arguments : Arguments} {found : Config.Found} {config other : ToolConfig}
    (effective : Effective arguments found config) (again : Effective arguments found other) :
    config = other := by
  obtain ⟨⟨rate⟩, target, attempts⟩ := config
  obtain ⟨⟨rate'⟩, target', attempts'⟩ := other
  obtain rfl : rate = rate' := Rate.number_inj (effective.rate.trans again.rate.symm)
  obtain rfl : target = target' := Rate.number_inj (effective.target.trans again.target.symm)
  obtain rfl : attempts = attempts' := effective.attempts.trans again.attempts.symm
  rfl

/-- What is wrong, and nothing that is looked at earlier is. -/
inductive Wrong (files : Files) (arguments : Arguments) : Fault → Prop
  | unreadable {path reason : String} (given : arguments.config = some path)
      (failed : files path = .error reason) : Wrong files arguments (.unreadable path reason)
  | invalid {path text : String} {cause : Config.Fault} (given : arguments.config = some path)
      (readable : files path = .ok text) (failed : ToolConfig.ofText text = .error cause) :
      Wrong files arguments (.invalid path cause)
  | baudrate {number : Nat} (usable : Usable files arguments.config)
      (given : arguments.baudrate = some number) (other : number ∉ [300, 1200, 2400, 9600]) :
      Wrong files arguments (.unsupportedRate number)
  | targetBaudrate {number : Nat} (usable : Usable files arguments.config)
      (supported : Supported arguments.baudrate)
      (given : arguments.targetBaudrate = some number)
      (other : number ∉ [300, 1200, 2400, 9600]) :
      Wrong files arguments (.unsupportedRate number)

/-! ## Options -/

section

variable {number : Nat} {option : Option Nat} {otherwise rate : Rate} {fault : Fault}

theorem chooseRate_known (known : Rate.ofNumber? number = some rate) (otherwise : Rate) :
    chooseRate (some number) otherwise = .ok rate := by
  simp only [chooseRate, known]

theorem chooseRate_unknown (other : number ∉ [300, 1200, 2400, 9600]) (otherwise : Rate) :
    chooseRate (some number) otherwise = .error (.unsupportedRate number) := by
  simp only [chooseRate, Rate.ofNumber?_eq_none other]

theorem chooseRate_supported (supported : Supported option) (otherwise : Rate) :
    ∃ rate, chooseRate option otherwise = .ok rate := by
  cases option with
  | none => exact ⟨otherwise, rfl⟩
  | some number =>
    obtain ⟨rate, known⟩ := (Rate.mem_numbers_iff number).mp (supported number rfl)
    exact ⟨rate, chooseRate_known known otherwise⟩

theorem chooseRate_ok (chosen : chooseRate option otherwise = .ok rate) :
    Supported option ∧ rate.number = option.getD otherwise.number := by
  cases option with
  | none =>
    obtain rfl := Except.ok.inj chosen
    exact ⟨nofun, rfl⟩
  | some number =>
    cases known : Rate.ofNumber? number with
    | none =>
      simp only [chooseRate, known] at chosen
      exact nomatch chosen
    | some named =>
      obtain rfl := Except.ok.inj ((chooseRate_known known otherwise).symm.trans chosen)
      refine ⟨?_, Rate.ofNumber?_eq_some known⟩
      rintro _ ⟨⟩
      exact (Rate.mem_numbers_iff number).mpr ⟨named, known⟩

theorem chooseRate_error (failed : chooseRate option otherwise = .error fault) :
    ∃ number, option = some number ∧ number ∉ [300, 1200, 2400, 9600] ∧
      fault = .unsupportedRate number := by
  cases option with
  | none => exact nomatch failed
  | some number =>
    have other : number ∉ [300, 1200, 2400, 9600] := by
      intro supported
      obtain ⟨rate, known⟩ := (Rate.mem_numbers_iff number).mp supported
      exact nomatch (chooseRate_known known otherwise).symm.trans failed
    have refused := chooseRate_unknown other otherwise
    exact ⟨number, rfl, other, Except.error.inj (failed.symm.trans refused)⟩

end

/-! ## The file -/

section

variable {files : Files} {config : Option String} {file : ToolConfig} {fault : Fault}

theorem fileSettings_ok (settled : fileSettings files config = .ok file) :
    Usable files config ∧ ∃ found, Sets files config found ∧ found.tool = file := by
  cases config with
  | none =>
    obtain rfl := Except.ok.inj settled
    exact ⟨nofun, {}, rfl, rfl⟩
  | some path =>
    cases readable : files path with
    | error reason =>
      simp only [fileSettings, readable] at settled
      exact nomatch settled
    | ok text =>
      simp only [fileSettings, readable] at settled
      cases read : ToolConfig.ofText text with
      | error cause =>
        rw [read] at settled
        exact nomatch settled
      | ok held =>
        rw [read] at settled
        obtain rfl := Except.ok.inj settled
        obtain ⟨found, sets, same⟩ := Config.found_of_read read
        refine ⟨?_, found, ⟨text, readable, sets⟩, same⟩
        rintro _ ⟨⟩
        exact ⟨text, held, readable, read⟩

theorem fileSettings_usable (usable : Usable files config) :
    ∃ file, fileSettings files config = .ok file := by
  cases config with
  | none => exact ⟨{}, rfl⟩
  | some path =>
    obtain ⟨text, file, readable, read⟩ := usable path rfl
    refine ⟨file, ?_⟩
    simp only [fileSettings, readable, read]
    rfl

theorem fileSettings_unreadable {path reason : String} (failed : files path = .error reason) :
    fileSettings files (some path) = .error (.unreadable path reason) := by
  simp only [fileSettings, failed]

theorem fileSettings_invalid {path text : String} {cause : Config.Fault}
    (readable : files path = .ok text) (failed : ToolConfig.ofText text = .error cause) :
    fileSettings files (some path) = .error (.invalid path cause) := by
  simp only [fileSettings, readable, failed]
  rfl

theorem wrong_of_file {arguments : Arguments}
    (failed : fileSettings files arguments.config = .error fault) : Wrong files arguments fault := by
  cases given : arguments.config with
  | none =>
    rw [given] at failed
    exact nomatch failed
  | some path =>
    rw [given] at failed
    cases readable : files path with
    | error reason =>
      have refused := fileSettings_unreadable readable
      obtain rfl := Except.error.inj (failed.symm.trans refused)
      exact .unreadable given readable
    | ok text =>
      cases read : ToolConfig.ofText text with
      | error cause =>
        have refused := fileSettings_invalid readable read
        obtain rfl := Except.error.inj (failed.symm.trans refused)
        exact .invalid given readable read
      | ok held =>
        simp only [fileSettings, readable, read] at failed
        exact nomatch failed

end

/-! ## Loading -/

section

variable {files : Files} {arguments : Arguments} {config : ToolConfig} {fault : Fault}

theorem load_ok (loaded : load files arguments = .ok config) :
    Usable files arguments.config ∧ Supported arguments.baudrate ∧
      Supported arguments.targetBaudrate ∧
      ∃ found, Sets files arguments.config found ∧ Effective arguments found config := by
  obtain ⟨file, settled, loaded⟩ := bind_ok loaded
  obtain ⟨rate, chosen, loaded⟩ := bind_ok loaded
  obtain ⟨target, chosen', loaded⟩ := bind_ok loaded
  obtain rfl := Except.ok.inj loaded
  obtain ⟨usable, found, sets, rfl⟩ := fileSettings_ok settled
  obtain ⟨supported, line⟩ := chooseRate_ok chosen
  obtain ⟨supported', answer⟩ := chooseRate_ok chosen'
  exact ⟨usable, supported, supported', found, sets, line, answer, rfl⟩

theorem load_of_file_error (failed : fileSettings files arguments.config = .error fault) :
    load files arguments = .error fault := by
  rw [load, failed]
  rfl

theorem Wrong.load (wrong : Wrong files arguments fault) :
    Tool.load files arguments = .error fault := by
  cases wrong with
  | unreadable given failed =>
    refine load_of_file_error ?_
    rw [given]
    exact fileSettings_unreadable failed
  | invalid given readable failed =>
    refine load_of_file_error ?_
    rw [given]
    exact fileSettings_invalid readable failed
  | baudrate usable given other =>
    obtain ⟨file, settled⟩ := fileSettings_usable usable
    simp only [Tool.load, settled, given, chooseRate_unknown other, bind, Except.bind]
  | targetBaudrate usable supported given other =>
    obtain ⟨file, settled⟩ := fileSettings_usable usable
    obtain ⟨rate, chosen⟩ := chooseRate_supported supported file.serial.rate
    simp only [Tool.load, settled, chosen, given, chooseRate_unknown other, bind, Except.bind]

/-- Where something is wrong, a file cannot be used or a number is no rate. -/
theorem Wrong.not_fine (wrong : Wrong files arguments fault) :
    ¬ (Usable files arguments.config ∧
      Supported arguments.baudrate ∧ Supported arguments.targetBaudrate) := by
  rintro ⟨usable, supported, supported'⟩
  cases wrong with
  | unreadable given failed =>
    obtain ⟨text, -, readable, -⟩ := usable _ given
    exact nomatch failed.symm.trans readable
  | invalid given readable failed =>
    obtain ⟨text, file, again, read⟩ := usable _ given
    obtain rfl := Except.ok.inj (readable.symm.trans again)
    exact nomatch failed.symm.trans read
  | baudrate usable given other => exact other (supported _ given)
  | targetBaudrate usable supported given other => exact other (supported' _ given)

theorem load_error (failed : load files arguments = .error fault) :
    Wrong files arguments fault := by
  rcases bind_error failed with failed | ⟨file, settled, failed⟩
  · exact wrong_of_file failed
  obtain ⟨usable, -⟩ := fileSettings_ok settled
  rcases bind_error failed with failed | ⟨rate, chosen, failed⟩
  · obtain ⟨number, given, other, rfl⟩ := chooseRate_error failed
    exact .baudrate usable given other
  obtain ⟨supported, -⟩ := chooseRate_ok chosen
  rcases bind_error failed with failed | ⟨target, chosen', failed⟩
  · obtain ⟨number, given, other, rfl⟩ := chooseRate_error failed
    exact .targetBaudrate usable supported given other
  · exact nomatch failed

end

/-! ## The main result -/

/-- A number that is no rate stands in the text where this rate of a configuration belongs. -/
def Misrates (text : String) (rate : ToolConfig → Rate) (number : Nat) : Prop :=
  (number < UInt32.size ∧ number ∉ [300, 1200, 2400, 9600]) ∧
    ∃ front back rest : String, text = front ++ toString number ++ rest ∧
      Config.Apart back.toList ∧ Config.Apart rest.toList ∧
      Config.Tells ToolConfig.ofText rate front back

/-- What is owed to the options and the file in question. -/
structure Loads (files : Files) (arguments : Arguments) : Prop where
  succeeds : (∃ config, load files arguments = .ok config) ↔
    Usable files arguments.config ∧
      Supported arguments.baudrate ∧ Supported arguments.targetBaudrate
  effective : ∀ config, load files arguments = .ok config →
    (∃ found, Sets files arguments.config found) ∧
      ∀ found, Sets files arguments.config found → Effective arguments found config
  fails : ∀ fault, load files arguments = .error fault ↔ Wrong files arguments fault
  /-- However the file is laid out, it sets what is written in it. -/
  laid : ∀ path text tokens file, arguments.config = some path → files path = .ok text →
    ToolConfig.Form tokens file → Config.Laid tokens text.toList →
      ∃ found, Sets files arguments.config found ∧ found.tool = file
  /-- No option makes up for a number in the file that is no rate. -/
  unmended : ∀ path text number, arguments.config = some path → files path = .ok text →
    Misrates text (·.serial.rate) number ∨ Misrates text (·.probe.target) number →
      load files arguments = .error (.invalid path (.unsupportedRate number))
  /-- Without options a file that a configuration was written to is that configuration. -/
  returned : ∀ path (config : ToolConfig), config.Proper → arguments.config = some path →
    files path = .ok config.text →
    arguments.baudrate = none → arguments.targetBaudrate = none → arguments.attempts = none →
      load files arguments = .ok config

theorem load_succeeds (files : Files) (arguments : Arguments) :
    (∃ config, load files arguments = .ok config) ↔
      Usable files arguments.config ∧
        Supported arguments.baudrate ∧ Supported arguments.targetBaudrate := by
  constructor
  · rintro ⟨config, loaded⟩
    obtain ⟨usable, supported, supported', -⟩ := load_ok loaded
    exact ⟨usable, supported, supported'⟩
  · intro fine
    cases loaded : load files arguments with
    | ok config => exact ⟨config, rfl⟩
    | error fault => exact absurd fine (load_error loaded).not_fine

theorem Misrates.refused {text : String} {rate : ToolConfig → Rate} {number : Nat}
    (misrates : Misrates text rate number) (reports : Config.Reports ToolConfig.ofText rate) :
    ToolConfig.ofText text = .error (.unsupportedRate number) := by
  obtain ⟨⟨small, other⟩, front, back, rest, rfl, apart, apart', tells⟩ := misrates
  exact (reports front back apart tells number small other rest apart').1

theorem load_written {files : Files} {arguments : Arguments} {path : String} {config : ToolConfig}
    (proper : config.Proper) (given : arguments.config = some path)
    (readable : files path = .ok config.text) (plain : arguments.baudrate = none)
    (plain' : arguments.targetBaudrate = none) (plain'' : arguments.attempts = none) :
    load files arguments = .ok config := by
  obtain ⟨tokens, form, laid⟩ := Config.tool_written config proper.2.2
  have read := Config.tool_read form laid
  have settled : fileSettings files arguments.config = .ok config := by
    simp only [given, fileSettings, readable, read]
    rfl
  simp only [load, settled, plain, plain', plain'', chooseRate, Option.getD, bind, Except.bind, pure,
    Except.pure]

/-- **Each setting comes from its option, else from the file, else from the defaults,** and the
first thing that is wrong is reported. -/
theorem load_effective (files : Files) (arguments : Arguments) : Loads files arguments where
  succeeds := load_succeeds files arguments
  effective config loaded := by
    obtain ⟨-, -, -, found, sets, effective⟩ := load_ok loaded
    refine ⟨⟨found, sets⟩, fun other again => ?_⟩
    rwa [again.unique sets]
  fails fault := ⟨load_error, Wrong.load⟩
  laid path text tokens file given readable form laid := by
    obtain ⟨found, held, same⟩ := Config.found_of_read (Config.tool_read form laid)
    rw [given]
    exact ⟨found, ⟨text, readable, held⟩, same⟩
  unmended path text number given readable misrates := by
    refine Wrong.load (.invalid given readable ?_)
    rcases misrates with line | target
    · exact line.refused Config.tool_taken.1.reports
    · exact target.refused Config.tool_taken.2.reports
  returned path config proper given readable plain plain' plain'' :=
    load_written proper given readable plain plain' plain''

/-- With a file that sets the attempts alone, an option that sets the rate, and options that do not
make up for other files. -/
theorem load_effective_mixed :
    let files : Files := fun path =>
      if path = "a" then .ok "\x7b\"probe\":\x7b\"attempts\":3\x7d\x7d"
      else if path = "b" then .ok ("\x7b\"serial\":[" ++ toString 4800 ++ "!")
      else if path = "c" then .ok (ToolConfig.text ⟨⟨.baud1200⟩, ⟨.baud300, 7⟩⟩)
      else .error "missing"
    let arguments (path : String) (rate target : Option Nat) : Arguments :=
      ⟨false, rate, target, none, some path, "/dev/tty", 1⟩
    load files (arguments "a" (some 300) none) = .ok ⟨⟨.baud300⟩, ⟨.baud9600, 3⟩⟩ ∧
      load files (arguments "b" (some 300) none) = .error (.invalid "b" (.unsupportedRate 4800)) ∧
      load files (arguments "c" none none) = .ok ⟨⟨.baud1200⟩, ⟨.baud300, 7⟩⟩ ∧
      load files (arguments "d" (some 1) (some 2)) = .error (.unreadable "d" "missing") ∧
      load files (arguments "c" (some 1) (some 2)) = .error (.unsupportedRate 1) := by
  intro files arguments
  have usable : Usable files (some "a") := by
    rintro _ ⟨⟩
    exact ⟨_, ⟨{}, ⟨.baud9600, 3⟩⟩, rfl, by decide⟩
  have supported : Supported (some 300) := by
    rintro _ ⟨⟩
    decide
  have broken : Misrates ("\x7b\"serial\":[" ++ toString 4800 ++ "!") (·.serial.rate) 4800 := by
    refine ⟨by decide, "\x7b\"serial\":[", "]\x7d", "!", rfl, by decide, by decide, .baud300,
      nofun, ?_⟩
    intro named among
    simp only [List.mem_cons, List.not_mem_nil, or_false] at among
    rcases among with rfl | rfl
    · exact ⟨⟨⟨.baud2400⟩, {}⟩, by decide, rfl⟩
    · exact ⟨⟨⟨.baud300⟩, {}⟩, by decide, rfl⟩
  have written : Usable files (some "c") := by
    rintro _ ⟨⟩
    exact ⟨_, ⟨⟨.baud1200⟩, ⟨.baud300, 7⟩⟩, rfl, by decide⟩
  refine ⟨?_, ?_, ?_, ?_, ?_⟩
  · have loads := load_effective files (arguments "a" (some 300) none)
    obtain ⟨config, loaded⟩ := loads.succeeds.mpr ⟨usable, supported, nofun⟩
    obtain ⟨-, effective⟩ := loads.effective config loaded
    have settled := effective { attempts := some 3 } ⟨_, rfl, by decide⟩
    have expected : Effective (arguments "a" (some 300) none) { attempts := some 3 }
        ⟨⟨.baud300⟩, ⟨.baud9600, 3⟩⟩ := ⟨rfl, rfl, rfl⟩
    rw [loaded, settled.unique expected]
  · exact (load_effective files _).unmended "b" _ 4800 rfl rfl (Or.inl broken)
  · have proper : ToolConfig.Proper ⟨⟨.baud1200⟩, ⟨.baud300, 7⟩⟩ :=
      ⟨Rate.supported _, Rate.supported _, by decide⟩
    exact (load_effective files _).returned "c" _ proper rfl rfl rfl rfl rfl
  · exact ((load_effective files _).fails _).mpr (.unreadable rfl rfl)
  · exact ((load_effective files _).fails _).mpr (.baudrate written rfl (by decide))

end MeterBus.Tool
