import CommandShell.Proofs.ConfigRefusals

/-! Where each setting comes from. A flag decides before the variable of its own, and the variable
before the default, whatever the other settings are. All variables are read, also where a flag decides,
so one that cannot be read stands in the way of all settings. -/

namespace CommandShell

namespace Config

section Layer

variable {α : Type}

/-- The value of a setting: that of its flag where it is given, else what its variable is read as
where it is set, else the default. -/
def layered (flag reading : Option (Except Fault α)) (default : α) : Except Fault α :=
  (flag.or reading).getD (.ok default)

def plain (flag : Option α) : Option (Except Fault α) := flag.map .ok

def reading? (environment : Environment) (name : String) (parse : String → Except Fault α) :
    Option (Except Fault α) :=
  (environment.get? name).map parse

end Layer

def fileReading? (environment : Environment) (name : String) :
    Option (Except Fault (Option String)) :=
  plain ((environment.nonEmpty? name).map some)

def variableNames : List String :=
  [promptVariable, strictQuotesVariable, logLevelVariable, logFileVariable, historyFileVariable,
   historySizeVariable, noCompletionVariable]

end Config

/-- What the flag for the level is read as, where it is given and not empty. -/
def Flags.levelReading? (flags : Flags) : Option (Except Fault Int) :=
  match flags.logLevel with
  | some (.text value) => if value = "" then none else some (Log.Level.parse value)
  | some .dropped | none => none

namespace Config

/-- Whether each setting is what its own flag and its own variable make of it. The flags for strict
quotes and for completion can ask for one value only, and the size of the history has no flag. -/
structure Layers (environment : Environment) (flags : Flags) (config : Config) : Prop where
  prompt : layered (plain (flags.prompt.map Flags.promptText))
    (reading? environment promptVariable .ok) "$ " = .ok config.prompt
  quoteMode : layered (plain (if flags.strictQuotes then some .strict else none))
    (reading? environment strictQuotesVariable parseQuoteMode) .permissive = .ok config.quoteMode
  logLevel : layered flags.levelReading? (reading? environment logLevelVariable Log.Level.parse)
    Log.Level.warning = .ok config.logLevel
  logFile : layered (plain (flags.logFile.map (some ∘ Flags.settingText)))
    (fileReading? environment logFileVariable) none = .ok config.logFile
  historyFile : layered (plain (flags.historyFile.map (some ∘ Flags.settingText)))
    (fileReading? environment historyFileVariable) none = .ok config.historyFile
  historySize : layered none
    (reading? environment historySizeVariable (parseInteger historySizeVariable)) 1000 =
      .ok config.historySize
  completion : layered (plain (if flags.noCompletion then some false else none))
    (reading? environment noCompletionVariable parseCompletion) true = .ok config.completion

/-- Whether something that is asked for cannot be read. There are four variables that can be set to
what cannot be read, and the flags that decide before them make no difference. -/
inductive Misread (environment : Environment) (flags : Flags) (fault : Fault) : Prop where
  | strictQuotes {value : String} (asked : environment.get? strictQuotesVariable = some value)
      (misread : parseBool strictQuotesVariable value = .error fault)
  | logLevel {value : String} (asked : environment.get? logLevelVariable = some value)
      (misread : Log.Level.parse value = .error fault)
  | historySize {value : String} (asked : environment.get? historySizeVariable = some value)
      (misread : parseInteger historySizeVariable value = .error fault)
  | noCompletion {value : String} (asked : environment.get? noCompletionVariable = some value)
      (misread : parseBool noCompletionVariable value = .error fault)
  | level {value : String} (asked : flags.logLevel = some (.text value)) (filled : value ≠ "")
      (misread : Log.Level.parse value = .error fault)

section Readings

variable {α : Type} {environment : Environment} {name : String} {value default : α} {fault : Fault}
  {parse : String → Except Fault α}

theorem setting_eq_layered (environment : Environment) (name : String) (default : α)
    (parse : String → Except Fault α) : setting environment name default parse =
      layered none (reading? environment name parse) default := by
  unfold setting layered reading?
  cases environment.get? name <;> rfl

/-- What is given decides, whatever would be read otherwise. -/
theorem layered_plain {reading : Option (Except Fault α)} (flag : Option α)
    (read : layered none reading default = .ok value) :
    layered (plain flag) reading default = .ok (flag.getD value) := by
  cases flag with
  | none => exact read
  | some given => rfl

theorem exists_of_setting_error (misread : setting environment name default parse = .error fault) :
    ∃ value, environment.get? name = some value ∧ parse value = .error fault := by
  unfold setting at misread
  cases asked : environment.get? name with
  | none =>
    rw [asked] at misread
    cases misread
  | some value =>
    rw [asked] at misread
    exact ⟨value, rfl, misread⟩

theorem setting_of_asked {text : String} (asked : environment.get? name = some text) :
    setting environment name default parse = parse text := by
  rw [setting, asked]

end Readings

def settled (environment : Environment) (flags : Flags) (quoteMode : QuoteMode) (logLevel : Int)
    (historySize : Int) (completion : Bool) (level : Option Int) : Config where
  prompt := (flags.prompt.map Flags.promptText).getD ((environment.get? promptVariable).getD "$ ")
  quoteMode := (if flags.strictQuotes then some .strict else none).getD quoteMode
  logLevel := level.getD logLevel
  logFile := flags.logFile.map Flags.settingText <|> environment.nonEmpty? logFileVariable
  historyFile := flags.historyFile.map Flags.settingText <|> environment.nonEmpty? historyFileVariable
  historySize := historySize
  completion := (if flags.noCompletion then some false else none).getD completion

end Config

namespace Flags

open Config

variable {environment : Environment} {flags : Flags} {fault : Fault}

/-- Settings are read one after another. What the flags decide takes no part in that, aside from the
level. -/
theorem loadConfig_eq (flags : Flags) (environment : Environment) :
    flags.loadConfig environment = (do
      let quoteMode ← setting environment strictQuotesVariable .permissive parseQuoteMode
      let logLevel ← setting environment logLevelVariable Log.Level.warning Log.Level.parse
      let historySize ← setting environment historySizeVariable 1000
        (parseInteger historySizeVariable)
      let completion ← setting environment noCompletionVariable true parseCompletion
      let level ← level? flags.logLevel
      return settled environment flags quoteMode logLevel historySize completion level) := by
  simp only [loadConfig, ofEnvironment, overrides, bind_assoc, pure_bind]
  rfl

theorem loadConfig_eq_ok {config : Config} : flags.loadConfig environment = .ok config ↔
    ∃ quoteMode, setting environment strictQuotesVariable .permissive parseQuoteMode =
        .ok quoteMode ∧
      ∃ logLevel, setting environment logLevelVariable Log.Level.warning Log.Level.parse =
          .ok logLevel ∧
        ∃ historySize, setting environment historySizeVariable 1000
            (parseInteger historySizeVariable) = .ok historySize ∧
          ∃ completion, setting environment noCompletionVariable true parseCompletion =
              .ok completion ∧
            ∃ level, level? flags.logLevel = .ok level ∧
              settled environment flags quoteMode logLevel historySize completion level = config := by
  simp only [loadConfig_eq, bind_eq_ok, pure, Except.pure, Except.ok.injEq]

theorem level?_eq (flags : Flags) : level? flags.logLevel =
    match flags.levelReading? with
    | none => .ok none
    | some reading => reading.map some := by
  unfold level? levelReading?
  cases flags.logLevel with
  | none => rfl
  | some given =>
    cases given with
    | dropped => rfl
    | text value =>
      dsimp only
      split <;> rfl

/-- The flag for the level decides where it is given and not empty. -/
theorem layered_level {reading : Option (Except Fault Int)} {default logLevel : Int}
    {level : Option Int} (given : level? flags.logLevel = .ok level)
    (read : layered none reading default = .ok logLevel) :
    layered flags.levelReading? reading default = .ok (level.getD logLevel) := by
  rw [level?_eq] at given
  cases asked : flags.levelReading? with
  | none =>
    rw [asked] at given
    obtain rfl := Except.ok.inj given
    exact read
  | some answer =>
    rw [asked] at given
    cases answer with
    | error fault => cases given
    | ok value =>
      obtain rfl := Except.ok.inj given
      rfl

theorem layered_file (given : Option OptionValue) (environment : Environment) (name : String) :
    layered (plain (given.map (some ∘ settingText))) (fileReading? environment name) none =
      .ok (given.map settingText <|> environment.nonEmpty? name) := by
  cases given with
  | some value => rfl
  | none =>
    unfold fileReading?
    cases environment.nonEmpty? name <;> rfl

theorem layered_prompt (given : Option OptionValue) (environment : Environment) :
    layered (plain (given.map promptText)) (reading? environment promptVariable .ok) "$ " =
      .ok ((given.map promptText).getD ((environment.get? promptVariable).getD "$ ")) := by
  apply layered_plain
  unfold reading?
  cases environment.get? promptVariable <;> rfl

/-- Settings that have been read are what the layers make of them. -/
theorem layers_of_loadConfig {config : Config} (loaded : flags.loadConfig environment = .ok config) :
    Layers environment flags config := by
  obtain ⟨quoteMode, mode, logLevel, level, historySize, size, completion, completes, asked, given,
    rfl⟩ := loadConfig_eq_ok.mp loaded
  rw [setting_eq_layered] at mode level size completes
  exact {
    prompt := layered_prompt flags.prompt environment
    quoteMode := layered_plain _ mode
    logLevel := layered_level given level
    logFile := layered_file flags.logFile environment logFileVariable
    historyFile := layered_file flags.historyFile environment historyFileVariable
    historySize := size
    completion := layered_plain _ completes }

theorem exists_of_level?_error (misread : level? flags.logLevel = .error fault) :
    ∃ value, flags.logLevel = some (.text value) ∧ value ≠ "" ∧
      Log.Level.parse value = .error fault := by
  unfold level? at misread
  split at misread
  · next value asked =>
    split at misread
    · cases misread
    · next filled => exact ⟨value, asked, filled, map_eq_error.mp misread⟩
  · cases misread
  · cases misread

/-- The fault that is reported is that of something that cannot be read. -/
theorem misread_of_loadConfig (failed : flags.loadConfig environment = .error fault) :
    Misread environment flags fault := by
  simp only [loadConfig_eq, bind_eq_error] at failed
  obtain mode | ⟨_, -, level | ⟨_, -, size | ⟨_, -, completes | ⟨_, -, given | ⟨_, -, ended⟩⟩⟩⟩⟩ :=
    failed
  · obtain ⟨value, asked, misread⟩ := exists_of_setting_error mode
    exact .strictQuotes asked (map_eq_error.mp misread)
  · obtain ⟨value, asked, misread⟩ := exists_of_setting_error level
    exact .logLevel asked misread
  · obtain ⟨value, asked, misread⟩ := exists_of_setting_error size
    exact .historySize asked misread
  · obtain ⟨value, asked, misread⟩ := exists_of_setting_error completes
    exact .noCompletion asked (map_eq_error.mp misread)
  · obtain ⟨value, asked, filled, misread⟩ := exists_of_level?_error given
    exact .level asked filled misread
  · cases ended

/-- Settings of which one cannot be read are not loaded. -/
theorem not_loadConfig_of_misread (misread : Misread environment flags fault) (config : Config) :
    flags.loadConfig environment ≠ .ok config := by
  intro loaded
  obtain ⟨quoteMode, mode, logLevel, level, historySize, size, completion, completes, asked, given,
    -⟩ := loadConfig_eq_ok.mp loaded
  cases misread with
  | strictQuotes asked misread =>
    rw [setting_of_asked asked, parseQuoteMode, misread] at mode
    cases mode
  | logLevel asked misread =>
    rw [setting_of_asked asked, misread] at level
    cases level
  | historySize asked misread =>
    rw [setting_of_asked asked, misread] at size
    cases size
  | noCompletion asked misread =>
    rw [setting_of_asked asked, parseCompletion, misread] at completes
    cases completes
  | level asked filled misread =>
    simp only [level?, asked, filled, if_false, misread] at given
    cases given

theorem exists_loadConfig_error_iff : (∃ fault, flags.loadConfig environment = .error fault) ↔
    ∃ fault, Misread environment flags fault := by
  constructor
  · rintro ⟨fault, failed⟩
    exact ⟨fault, misread_of_loadConfig failed⟩
  · rintro ⟨fault, misread⟩
    cases loaded : flags.loadConfig environment with
    | error other => exact ⟨other, rfl⟩
    | ok config => exact absurd loaded (not_loadConfig_of_misread misread config)

/-- Of the environment only the variables for settings are looked at. -/
theorem loadConfig_congr {other : Environment}
    (same : ∀ name ∈ variableNames, other.get? name = environment.get? name) :
    flags.loadConfig other = flags.loadConfig environment := by
  simp only [variableNames, List.forall_mem_cons, List.not_mem_nil, false_implies, implies_true,
    and_true] at same
  obtain ⟨prompt, mode, level, logFile, historyFile, size, completion⟩ := same
  simp only [loadConfig_eq, setting, settled, Environment.nonEmpty?, prompt, mode, level, logFile,
    historyFile, size, completion]

/-- Settings that are loaded are decided one by one: each by its flag, else by its variable, else by
its default. They are loaded unless something that is asked for cannot be read, and the fault of
such a thing is then reported. Nothing else in the environment counts. -/
theorem loadConfig_layers (environment : Environment) (flags : Flags) :
    (∀ config, flags.loadConfig environment = .ok config → Layers environment flags config) ∧
    ((∃ fault, flags.loadConfig environment = .error fault) ↔
      ∃ fault, Misread environment flags fault) ∧
    (∀ fault, flags.loadConfig environment = .error fault → Misread environment flags fault) ∧
    ∀ other : Environment, (∀ name ∈ variableNames, other.get? name = environment.get? name) →
      flags.loadConfig other = flags.loadConfig environment :=
  ⟨fun _ => layers_of_loadConfig, exists_loadConfig_error_iff, fun _ => misread_of_loadConfig,
    fun _ => loadConfig_congr⟩

/-- A prompt from a flag, a file from a variable that is set, one that is set to nothing, and a level
from its default. -/
example : ({ prompt := some (.text "") } : Flags).loadConfig
    [("PYSHELL_PROMPT", "> "), ("PYSHELL_LOG_FILE", "log"), ("PYSHELL_HISTFILE", "")] =
      .ok { prompt := "", logFile := some "log" } := rfl

end Flags

end CommandShell
