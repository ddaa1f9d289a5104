import CommandShell.Program
import CommandShell.Proofs.CommandFaults
import CommandShell.Proofs.Numerals

/-! What becomes of settings that cannot be read. They are refused with a line on the error
stream before anything is run. Only a level may escape that: one that shows nothing but digits is
taken as a number, even where its digits do not make one. -/

namespace CommandShell

open Fault (Only)

namespace Log.Level

/-- Whether a text asks for a level by digits that do not make a number: one of them is not
decimal, or there are too many. -/
structure Garbled (text : String) : Prop where
  filled : Text.strip text ≠ ""
  digits : ∀ char ∈ (Text.strip text).toList, Text.showsDigit char = true
  broken : (∃ char ∈ (Text.strip text).toList, Text.isDecimal char = false) ∨
    Text.maxDigits < (Text.strip text).length

inductive Reading (text : String) : Except Fault Int → Prop where
  | level (level : Int) : Reading text (.ok level)
  | unknown : Reading text (.error (.shell (.config (.unknownLevel (Text.strip text)))))
  | garbled (garbled : Garbled text) (error : Text.NumeralError) :
      Reading text (.error (.numeral (Text.strip text) error))

theorem garbled_of_error {text : String} {error : Text.NumeralError}
    (filled : Text.strip text ≠ "")
    (digits : ∀ char ∈ (Text.strip text).toList, Text.showsDigit char = true)
    (unread : Text.readInteger (Text.strip text) = .error error) : Garbled text := by
  refine ⟨filled, digits, ?_⟩
  by_contra sound
  obtain ⟨decimal, short⟩ := not_or.mp sound
  have read : ∃ value, Text.readInteger (Text.strip text) = .ok value := by
    apply (Text.exists_readInteger_iff filled digits).mpr
    refine ⟨?_, Nat.le_of_not_lt short⟩
    intro char member
    apply Bool.not_eq_false _ |>.mp
    intro other
    exact decimal ⟨char, member, other⟩
  obtain ⟨value, read⟩ := read
  cases unread.symm.trans read

theorem parse_reading (text : String) : Reading text (parse text) := by
  unfold parse
  dsimp only
  split
  · next shows =>
    simp only [Bool.and_eq_true, decide_eq_true_eq, List.all_eq_true, ne_eq] at shows
    obtain ⟨filled, digits⟩ := shows
    cases read : Text.readInteger (Text.strip text) with
    | ok value => exact .level value
    | error error => exact .garbled (garbled_of_error filled digits read) error
  · split
    · exact .level _
    · exact .unknown

/-- Digits that do not make a number are not looked for among the names of levels. -/
theorem parse_of_garbled {text : String} (garbled : Garbled text) :
    ∃ error, parse text = .error (.numeral (Text.strip text) error) := by
  have shows : (Text.strip text ≠ "" && (Text.strip text).toList.all Text.showsDigit) = true := by
    simpa [garbled.filled] using garbled.digits
  have unread : ¬∃ value, Text.readInteger (Text.strip text) = .ok value := by
    intro read
    obtain ⟨decimal, short⟩ := (Text.exists_readInteger_iff garbled.filled garbled.digits).mp read
    rcases garbled.broken with ⟨char, member, other⟩ | long
    · cases (decimal char member).symm.trans other
    · exact absurd short (Nat.not_le.mpr long)
  cases read : Text.readInteger (Text.strip text) with
  | ok value => exact absurd ⟨value, read⟩ unread
  | error error => exact ⟨error, by simp only [parse, shows, if_true, read]; rfl⟩

end Log.Level

/-- A level is read or refused, unless it is garbled. -/
theorem Log.Level.parse_iff (text : String) :
    ((∃ level, parse text = .ok level) ∨
        ∃ problem, parse text = .error (.shell (.config problem))) ↔ ¬Garbled text := by
  constructor
  · intro reads garbled
    obtain ⟨error, escaped⟩ := parse_of_garbled garbled
    simp [escaped] at reads
  · intro sound
    have reading := parse_reading text
    generalize parse text = answer at reading ⊢
    cases reading with
    | level level => exact .inl ⟨level, rfl⟩
    | unknown => exact .inr ⟨_, rfl⟩
    | garbled garbled error => exact absurd garbled sound

/-- Whether a fault is the refusal of a setting, with a message that stays on one line. -/
def Fault.IsRefusal (fault : Fault) : Prop :=
  ∃ problem : ConfigProblem, fault = .shell (.config problem) ∧
    ∀ char ∈ problem.message.toList, Text.isPrintable char = true

namespace Config

/-- A message that names a setting and quotes its value. -/
theorem isPrintable_naming {start : String} (value : String)
    (shown : start.toList.all Text.isPrintable = true) :
    ∀ char ∈ (start ++ Text.quoted value).toList, Text.isPrintable char = true := by
  intro char member
  rw [String.toList_append] at member
  rcases List.mem_append.mp member with member | member
  · exact List.all_eq_true.mp shown char member
  · exact Text.isPrintable_quoted value char member

theorem parseBool_refuses (value : String) {name : String}
    (shown : (name ++ ": expected a boolean, got ").toList.all Text.isPrintable = true) :
    Only Fault.IsRefusal (parseBool name value) := by
  unfold parseBool
  dsimp only
  split
  · exact .ok _
  split
  · exact .ok _
  · exact .error ⟨_, rfl, isPrintable_naming value shown⟩

theorem parseInteger_refuses (value : String) :
    Only Fault.IsRefusal (parseInteger historySizeVariable value) := by
  unfold parseInteger
  cases Text.readInteger value with
  | ok size => exact .ok _
  | error error => exact .error ⟨_, rfl, isPrintable_naming value (by decide)⟩

/-- Whether a level that is garbled ends the reading of settings. A variable is read after the one
for strict quotes, and the option after all variables. -/
inductive Garbles (environment : Environment) (flags : Flags) : Prop where
  | ofVariable {value : String}
      (earlier : ∀ strict, environment.get? strictQuotesVariable = some strict →
        ∃ answer, parseBool strictQuotesVariable strict = .ok answer)
      (asked : environment.get? logLevelVariable = some value)
      (garbled : Log.Level.Garbled value) : Garbles environment flags
  | ofOption {config : Config} {value : String} (loaded : ofEnvironment environment = .ok config)
      (asked : flags.logLevel = some (.text value)) (garbled : Log.Level.Garbled value) :
      Garbles environment flags

inductive Unloaded (environment : Environment) (flags : Flags) : Fault → Prop where
  | refused {fault : Fault} (refusal : fault.IsRefusal) : Unloaded environment flags fault
  | garbled (text : String) (error : Text.NumeralError) (garbles : Garbles environment flags) :
      Unloaded environment flags (.numeral text error)

variable {environment : Environment} {flags : Flags} {α : Type} {allowed : Fault → Prop}

theorem only_setting {name : String} {default : α} {parse : String → Except Fault α}
    (only : ∀ value, environment.get? name = some value → Only allowed (parse value)) :
    Only allowed (setting environment name default parse) := by
  unfold setting
  cases asked : environment.get? name with
  | none => exact .ok _
  | some value => exact only value asked

theorem parseQuoteMode_refuses (value : String) : Only Fault.IsRefusal (parseQuoteMode value) :=
  (parseBool_refuses value (by decide)).map _

theorem parseCompletion_refuses (value : String) : Only Fault.IsRefusal (parseCompletion value) :=
  (parseBool_refuses value (by decide)).map _

theorem exists_quoteMode_iff (default : QuoteMode) :
    (∃ mode, setting environment strictQuotesVariable default parseQuoteMode = .ok mode) ↔
      ∀ strict, environment.get? strictQuotesVariable = some strict →
        ∃ answer, parseBool strictQuotesVariable strict = .ok answer := by
  unfold setting
  cases environment.get? strictQuotesVariable with
  | none => simp
  | some strict =>
    simp only [Option.some.injEq, forall_eq', parseQuoteMode]
    generalize parseBool strictQuotesVariable strict = answer
    cases answer <;> simp [Except.map]

theorem parse_unloaded {value : String}
    (garbles : Log.Level.Garbled value → Garbles environment flags) :
    Only (Unloaded environment flags) (Log.Level.parse value) := by
  have reading := Log.Level.parse_reading value
  generalize Log.Level.parse value = answer at reading ⊢
  cases reading with
  | level level => exact .ok level
  | unknown => exact .error (.refused ⟨_, rfl, isPrintable_naming _ (by decide)⟩)
  | garbled garbled error => exact .error (.garbled _ error (garbles garbled))

theorem ofEnvironment_unloaded (environment : Environment) (flags : Flags) :
    Only (Unloaded environment flags) (ofEnvironment environment) := by
  apply Only.bind
  · apply only_setting
    intro value asked
    exact (parseQuoteMode_refuses value).mono fun _ => .refused
  intro mode found
  apply Only.bind
  · apply only_setting
    intro value asked
    exact parse_unloaded (.ofVariable ((exists_quoteMode_iff _).mp ⟨mode, found⟩) asked)
  intro level _
  apply Only.bind
  · apply only_setting
    intro value asked
    exact (parseInteger_refuses value).mono fun _ => .refused
  intro size _
  apply Only.bind
  · apply only_setting
    intro value asked
    exact (parseCompletion_refuses value).mono fun _ => .refused
  intro completion _
  exact .ok _

end Config

namespace Flags

open Config

variable {environment : Environment} {flags : Flags}

theorem level?_unloaded {config : Config} (loaded : ofEnvironment environment = .ok config) :
    Only (Unloaded environment flags) (level? flags.logLevel) := by
  cases asked : flags.logLevel with
  | none => exact .ok none
  | some given =>
    cases given with
    | dropped => exact .ok none
    | text value =>
      unfold level?
      dsimp only
      split
      · exact .ok none
      · exact (parse_unloaded (.ofOption loaded asked)).map some

/-- Settings are read, or a setting is refused, or a level is garbled. -/
theorem loadConfig_unloaded (flags : Flags) (environment : Environment) :
    Only (Unloaded environment flags) (flags.loadConfig environment) := by
  unfold loadConfig
  apply Only.bind (ofEnvironment_unloaded environment flags)
  intro config loaded
  apply Only.bind
  · unfold overrides
    apply Only.bind (level?_unloaded loaded)
    intro level _
    exact .ok _
  intro overrides _
  exact .ok _

theorem loadConfig_of_garbles (garbles : Garbles environment flags) :
    ∃ text error, flags.loadConfig environment = .error (.numeral text error) := by
  cases garbles with
  | @ofVariable value earlier asked garbled =>
    obtain ⟨error, read⟩ := Log.Level.parse_of_garbled garbled
    refine ⟨Text.strip value, error, ?_⟩
    have level : setting environment logLevelVariable ({} : Config).logLevel Log.Level.parse =
        .error (.numeral (Text.strip value) error) := by
      rw [setting, asked]
      exact read
    obtain ⟨mode, found⟩ := (exists_quoteMode_iff ({} : Config).quoteMode).mpr earlier
    simp only [loadConfig, ofEnvironment, found, level]
    rfl
  | @ofOption config value loaded asked garbled =>
    obtain ⟨error, read⟩ := Log.Level.parse_of_garbled garbled
    refine ⟨Text.strip value, error, ?_⟩
    have filled : value ≠ "" := by
      intro empty
      exact garbled.filled (by rw [empty]; rfl)
    have level : level? flags.logLevel = .error (.numeral (Text.strip value) error) := by
      simp only [level?, asked, filled, if_false, read]
      rfl
    simp only [loadConfig, overrides, loaded, level]
    rfl

end Flags

namespace Program

/-- What a program comes to whose settings are refused: a line on the error stream, and nothing
else. -/
structure Refuses (machine : Machine) (problem : ConfigProblem) (result : ProgramResult) : Prop where
  ending : result.ending = .status 2
  errors : result.machine.console.errorBytes =
    machine.console.errorBytes ++ Bytes.ofText ("pyshell: " ++ problem.message ++ "\n")
  line : '\n' ∉ problem.message.toList
  output : result.machine.console.output = machine.console.output
  rest : result.machine = { machine with console := result.machine.console }

theorem run_refuses {call : ProgramCall} {flags : Flags} {problem : ConfigProblem}
    (machine : Machine) (parsed : Options.parse call.arguments = .ok flags)
    (refused : flags.loadConfig call.environment = .error (.shell (.config problem))) :
    Refuses machine problem (run call machine) := by
  have shown : ∀ char ∈ problem.message.toList, Text.isPrintable char = true := by
    cases flags.loadConfig_unloaded call.environment _ refused with
    | refused refusal =>
      obtain ⟨other, same, shown⟩ := refusal
      cases same
      exact shown
  simp only [run, parsed, runWith, refused]
  refine ⟨rfl, Console.errorBytes_writeError _ _, ?_, rfl, rfl⟩
  intro ended
  exact absurd (shown '\n' ended) (by decide)

end Program

namespace Flags

open Config

/-- A configuration is read or refused, unless a level is garbled. -/
theorem loadConfig_iff (environment : Environment) (flags : Flags) :
    ((∃ config, flags.loadConfig environment = .ok config) ∨
        ∃ problem, flags.loadConfig environment = .error (.shell (.config problem))) ↔
      ¬Garbles environment flags := by
  constructor
  · intro loads garbles
    obtain ⟨text, error, escaped⟩ := loadConfig_of_garbles garbles
    simp [escaped] at loads
  · intro sound
    cases loading : flags.loadConfig environment with
    | ok config => exact .inl ⟨config, rfl⟩
    | error fault =>
      cases flags.loadConfig_unloaded environment fault loading with
      | refused refusal =>
        obtain ⟨problem, rfl, -⟩ := refusal
        exact .inr ⟨problem, rfl⟩
      | garbled text error garbles => exact absurd garbles sound

/-- Whatever settings hold, they are read or refused, as long as no level is garbled. A program
whose settings are refused says so on one line and does nothing else. -/
theorem loadConfig_reports (environment : Environment) (flags : Flags) :
    (∀ text, ((∃ level, Log.Level.parse text = .ok level) ∨
        ∃ problem, Log.Level.parse text = .error (.shell (.config problem))) ↔
      ¬Log.Level.Garbled text) ∧
    (((∃ config, flags.loadConfig environment = .ok config) ∨
        ∃ problem, flags.loadConfig environment = .error (.shell (.config problem))) ↔
      ¬Garbles environment flags) ∧
    ∀ call problem machine, call.environment = environment →
      Options.parse call.arguments = .ok flags →
      flags.loadConfig environment = .error (.shell (.config problem)) →
      Program.Refuses machine problem (Program.run call machine) := by
  refine ⟨Log.Level.parse_iff, loadConfig_iff environment flags, ?_⟩
  intro call problem machine same parsed refused
  subst same
  exact Program.run_refuses machine parsed refused

/-- A superscript shows a digit and makes no number, which is no refusal. -/
theorem loadConfig_superscript :
    Config.Garbles [] { logLevel := some (.text "²") } ∧
    ¬((∃ config, ({ logLevel := some (.text "²") } : Flags).loadConfig [] = .ok config) ∨
      ∃ problem, ({ logLevel := some (.text "²") } : Flags).loadConfig [] =
        .error (.shell (.config problem))) := by
  have digits : (Text.strip "²").toList.all Text.showsDigit = true := by decide
  have garbled : Log.Level.Garbled "²" :=
    ⟨by decide, List.all_eq_true.mp digits, .inl ⟨'²', by decide, by decide⟩⟩
  have garbles : Config.Garbles [] { logLevel := some (.text "²") } := .ofOption rfl rfl garbled
  exact ⟨garbles, fun reported => (loadConfig_iff [] _).mp reported garbles⟩

end Flags

end CommandShell
