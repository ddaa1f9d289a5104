import CommandShell.Config

/-! The options of the command line. Long options may be cut short as long as they stay
distinct, and values follow an option or are attached to it. Arguments that are no
options are refused once all options have been read. -/

namespace CommandShell

inductive OptionName where
  | help
  | command
  | prompt
  | strictQuotes
  | logLevel
  | logFile
  | historyFile
  | noCompletion
  deriving DecidableEq, Repr

namespace OptionName

def spellings : List (String × OptionName) :=
  [("-h", help), ("--help", help), ("-c", command), ("--command", command), ("--prompt", prompt),
   ("--strict-quotes", strictQuotes), ("--log-level", logLevel), ("--log-file", logFile),
   ("--history-file", historyFile), ("--no-completion", noCompletion)]

def takesValue : OptionName → Bool
  | help | strictQuotes | noCompletion => false
  | command | prompt | logLevel | logFile | historyFile => true

def display (name : OptionName) : String :=
  "/".intercalate ((spellings.filter (·.2 = name)).map (·.1))

end OptionName

/-- What an option was given. The mark that ends the options is dropped where it is
attached as a value, and nothing is left. -/
inductive OptionValue where
  | text (text : String)
  | dropped
  deriving DecidableEq, Repr

namespace OptionValue

def ofAttached (attached : String) : OptionValue := if attached = "--" then dropped else text attached

end OptionValue

structure Flags where
  command : Option OptionValue := none
  prompt : Option OptionValue := none
  strictQuotes : Bool := false
  logLevel : Option OptionValue := none
  logFile : Option OptionValue := none
  historyFile : Option OptionValue := none
  noCompletion : Bool := false
  deriving DecidableEq, Repr

inductive UsageError where
  | missingValue (name : OptionName)
  | unusedValue (name : OptionName) (value : String)
  | ambiguous (argument : String) (spellings : List String)
  | unrecognized (arguments : List String)
  deriving DecidableEq, Repr

inductive UsageStop where
  | help
  | error (error : UsageError)
  deriving DecidableEq, Repr

namespace UsageError

def message : UsageError → String
  | missingValue name => "argument " ++ name.display ++ ": expected one argument"
  | unusedValue name value =>
    "argument " ++ name.display ++ ": ignored explicit argument " ++ Text.quoted value
  | ambiguous argument spellings =>
    "ambiguous option: " ++ argument ++ " could match " ++ ", ".intercalate spellings
  | unrecognized arguments => "unrecognized arguments: " ++ " ".intercalate arguments

end UsageError

namespace Options

def usage : String :=
  "usage: pyshell [-h] [-c COMMAND] [--prompt PROMPT] [--strict-quotes]\n" ++
  "               [--log-level LOG_LEVEL] [--log-file LOG_FILE]\n" ++
  "               [--history-file HISTORY_FILE] [--no-completion]\n"

def help : String :=
  usage ++ "\n" ++
  "A small interactive shell\n" ++ "\n" ++
  "options:\n" ++
  "  -h, --help            show this help message and exit\n" ++
  "  -c COMMAND, --command COMMAND\n" ++
  "                        Run one command line and exit with its status\n" ++
  "  --prompt PROMPT       Prompt string (default \"$ \")\n" ++
  "  --strict-quotes       Reject lines that end inside a quote or escape\n" ++
  "  --log-level LOG_LEVEL\n" ++
  "                        Diagnostic log level, e.g. DEBUG\n" ++
  "  --log-file LOG_FILE   Write diagnostics to this file\n" ++
  "  --history-file HISTORY_FILE\n" ++
  "                        Load and save command history here\n" ++
  "  --no-completion       Disable tab completion\n"

def refusal (error : UsageError) : String := usage ++ "pyshell: error: " ++ error.message ++ "\n"

inductive ArgumentKind where
  | positional
  /-- An option, with text attached to it. `short` tells that it has a single dash. -/
  | option (name : OptionName) (short : Bool) (attached : Option String)
  | unknown
  /-- The mark after which nothing is an option. -/
  | endMark
  deriving DecidableEq, Repr

def cutAtEquals (argument : String) : String × Option String :=
  let chars := argument.toList
  let before := String.ofList (chars.takeWhile (· ≠ '='))
  match chars.dropWhile (· ≠ '=') with
  | [] => (before, none)
  | _ :: after => (before, some (String.ofList after))

def isShort (spelling : String) : Bool := !("--".toList.isPrefixOf spelling.toList)

/-- The options that an argument may be a shortening of. The letter of a short option
may have its value right behind it. -/
def shortenings (argument : String) : List (String × ArgumentKind) :=
  if isShort argument then
    let letter := String.ofList (argument.toList.take 2)
    (OptionName.spellings.filter (·.1 = letter)).map fun (spelling, name) =>
      (spelling, .option name true (some (String.ofList (argument.toList.drop 2))))
  else
    let (start, attached) := cutAtEquals argument
    (OptionName.spellings.filter fun (spelling, _) => start.toList.isPrefixOf spelling.toList).map
      fun (spelling, name) => (spelling, .option name false attached)

/-- Whether an argument is a negative number: digits after a dash, with a point before
the last of them or without. A line feed may end it. -/
def isNegativeNumber (argument : String) : Bool :=
  match argument.toList with
  | '-' :: rest =>
    let number := if rest.getLast? = some '\n' then rest.dropLast else rest
    let whole := number.takeWhile Text.isDecimal
    match number.dropWhile Text.isDecimal with
    | [] => !whole.isEmpty
    | '.' :: decimals => !decimals.isEmpty && decimals.all Text.isDecimal
    | _ => false
  | _ => false

def classify (argument : String) : Except UsageError ArgumentKind :=
  let (start, attached) := cutAtEquals argument
  if argument.toList.head? ≠ some '-' then .ok .positional
  else match OptionName.spellings.lookup argument with
    | some name => .ok (.option name (isShort argument) none)
    | none =>
      if argument = "-" then .ok .positional
      else match attached, OptionName.spellings.lookup start with
        | some value, some name => .ok (.option name (isShort start) (some value))
        | _, _ =>
          match shortenings argument with
          | [(_, kind)] => .ok kind
          | [] =>
            if isNegativeNumber argument || argument.toList.contains ' ' then .ok .positional
            else .ok .unknown
          | several => .error (.ambiguous argument (several.map (·.1)))

/-- Decide what each argument is. After the end mark nothing is an option. -/
def classifyAll : List String → Except UsageError (List (String × ArgumentKind))
  | [] => .ok []
  | argument :: rest =>
    if argument = "--" then
      .ok ((argument, .endMark) :: rest.map fun later => (later, .positional))
    else do
      let kind ← classify argument
      let later ← classifyAll rest
      return (argument, kind) :: later

def note (flags : Flags) : OptionName → Flags
  | .strictQuotes => { flags with strictQuotes := true }
  | .noCompletion => { flags with noCompletion := true }
  | .help | .command | .prompt | .logLevel | .logFile | .historyFile => flags

def noteValue (flags : Flags) (value : OptionValue) : OptionName → Flags
  | .command => { flags with command := some value }
  | .prompt => { flags with prompt := some value }
  | .logLevel => { flags with logLevel := some value }
  | .logFile => { flags with logFile := some value }
  | .historyFile => { flags with historyFile := some value }
  | .help | .strictQuotes | .noCompletion => flags

/-- Letters right behind the short option for help are options too. Help is then shown,
unless one of them is refused before. -/
def helpWithLetters (valueFollows : Bool) : List Char → UsageStop
  | [] => .help
  | letter :: rest =>
    match OptionName.spellings.lookup (String.ofList ['-', letter]) with
    | none => .error (.unusedValue .help (String.ofList (letter :: rest)))
    | some name =>
      if name.takesValue then
        if rest.isEmpty && !valueFollows then .error (.missingValue name) else .help
      else helpWithLetters valueFollows rest

def startsWithValue : List (String × ArgumentKind) → Bool
  | (_, .positional) :: _ => true
  | _ => false

def read (flags : Flags) (extras : List String) :
    List (String × ArgumentKind) → Except UsageStop (Flags × List String)
  | [] => .ok (flags, extras)
  | (text, .positional) :: rest | (text, .endMark) :: rest | (text, .unknown) :: rest =>
    read flags (extras ++ [text]) rest
  | (_, .option name short (some value)) :: rest =>
    if name.takesValue then read (noteValue flags (.ofAttached value) name) extras rest
    else if short && value ≠ "" then
      .error (helpWithLetters (startsWithValue rest) value.toList)
    else .error (.error (.unusedValue name value))
  | (_, .option name _ none) :: rest =>
    if name.takesValue then
      match rest with
      | (value, .positional) :: later => read (noteValue flags (.text value) name) extras later
      | _ => .error (.error (.missingValue name))
    else if name = .help then .error .help
    else read (note flags name) extras rest

def parse (arguments : List String) : Except UsageStop Flags := do
  let kinds ← (classifyAll arguments).mapError .error
  let (flags, extras) ← read {} [] kinds
  if extras.isEmpty then return flags else throw (.error (.unrecognized extras))

end Options

namespace Flags

def settingText : OptionValue → String
  | .text text => text
  | .dropped => ""

/-- A prompt option as it is shown. Without a value it shows as an empty list. -/
def promptText : OptionValue → String
  | .text text => text
  | .dropped => "[]"

/-- The level asked for by an option. An empty value asks for none. -/
def level? : Option OptionValue → Except Fault (Option Int)
  | some (.text text) => if text = "" then .ok none else (Log.Level.parse text).map some
  | some .dropped | none => .ok none

/-- The settings that options ask for. An option can make quoting strict and switch
completion off, not the other way round. -/
def overrides (flags : Flags) : Except Fault Config.Overrides := do
  let logLevel ← level? flags.logLevel
  return { prompt := flags.prompt.map promptText
           quoteMode := if flags.strictQuotes then some .strict else none
           logLevel
           logFile := flags.logFile.map settingText
           historyFile := flags.historyFile.map settingText
           completion := if flags.noCompletion then some false else none }

/-- The settings of a shell: defaults, then the environment, then options. -/
def loadConfig (flags : Flags) (environment : Environment) : Except Fault Config := do
  let config ← Config.ofEnvironment environment
  let overrides ← flags.overrides
  return config.override overrides

end Flags

end CommandShell
