import CommandShell.Environment
import CommandShell.Log.Level
import CommandShell.Words

/-! The settings of a shell. Each has a default, which a variable of the environment
may replace, and which an option of the command line may replace in turn. -/

namespace CommandShell

structure Config where
  prompt : String := "$ "
  quoteMode : QuoteMode := .permissive
  logLevel : Int := Log.Level.warning
  logFile : Option String := none
  historyFile : Option String := none
  historySize : Int := 1000
  completion : Bool := true
  deriving DecidableEq, Repr

namespace Config

def affirmations : List String := ["1", "true", "yes", "on"]

/-- The words for no, in small letters. An empty value means no. -/
def denials : List String := ["0", "false", "no", "off", ""]

def parseBool (setting value : String) : Except Fault Bool :=
  let word := Text.smalls (Text.strip value)
  if affirmations.contains word then .ok true
  else if denials.contains word then .ok false
  else .error (.shell (.config (.notBoolean setting value)))

def parseInteger (setting value : String) : Except Fault Int :=
  (Text.readInteger value).mapError fun _ => .shell (.config (.notInteger setting value))

def promptVariable : String := "PYSHELL_PROMPT"
def strictQuotesVariable : String := "PYSHELL_STRICT_QUOTES"
def logLevelVariable : String := "PYSHELL_LOG_LEVEL"
def logFileVariable : String := "PYSHELL_LOG_FILE"
def historyFileVariable : String := "PYSHELL_HISTFILE"
def historySizeVariable : String := "PYSHELL_HISTSIZE"
def noCompletionVariable : String := "PYSHELL_NO_COMPLETION"

def parseQuoteMode (value : String) : Except Fault QuoteMode :=
  (parseBool strictQuotesVariable value).map fun strict => if strict then .strict else .permissive

def parseCompletion (value : String) : Except Fault Bool :=
  (parseBool noCompletionVariable value).map not

def setting {α : Type} (environment : Environment) (name : String) (default : α)
    (parse : String → Except Fault α) : Except Fault α :=
  match environment.get? name with
  | none => .ok default
  | some value => parse value

/-- The settings that an environment asks for. Files are taken only from variables
that are set to something. -/
def ofEnvironment (environment : Environment) : Except Fault Config := do
  let base : Config := {}
  let prompt := (environment.get? promptVariable).getD base.prompt
  let quoteMode ← setting environment strictQuotesVariable base.quoteMode parseQuoteMode
  let logLevel ← setting environment logLevelVariable base.logLevel Log.Level.parse
  let historySize ← setting environment historySizeVariable base.historySize
    (parseInteger historySizeVariable)
  let completion ← setting environment noCompletionVariable base.completion parseCompletion
  return { prompt, quoteMode, logLevel
           logFile := environment.nonEmpty? logFileVariable
           historyFile := environment.nonEmpty? historyFileVariable
           historySize, completion }

/-- Settings given besides the environment. One that is missing changes nothing. -/
structure Overrides where
  prompt : Option String := none
  quoteMode : Option QuoteMode := none
  logLevel : Option Int := none
  logFile : Option String := none
  historyFile : Option String := none
  historySize : Option Int := none
  completion : Option Bool := none
  deriving DecidableEq, Repr

def override (config : Config) (overrides : Overrides) : Config :=
  { prompt := overrides.prompt.getD config.prompt
    quoteMode := overrides.quoteMode.getD config.quoteMode
    logLevel := overrides.logLevel.getD config.logLevel
    logFile := overrides.logFile <|> config.logFile
    historyFile := overrides.historyFile <|> config.historyFile
    historySize := overrides.historySize.getD config.historySize
    completion := overrides.completion.getD config.completion }

/-- The file to log to. An empty name asks for none. -/
def logPath? (config : Config) : Option String := config.logFile.filter (· ≠ "")

def historyPath? (config : Config) : Option String := config.historyFile.filter (· ≠ "")

end Config

end CommandShell
