import CommandShell.Interpreter
import CommandShell.Machine

/-! Starting a program and waiting for its end. The program gets the name it was called
by apart from the file that holds it. -/

namespace CommandShell

structure Launch where
  executable : String
  /-- The name that the program is told, and its arguments. -/
  argv : List String
  environment : Environment
  deriving Repr

namespace Launch

def defaultPath : String := "/bin:/usr/bin"

/-- The most bytes that one argument or variable may take, with its end mark. -/
def maxTextLength : Nat := 131072

def referenceLength : Nat := 8

def maxTotalLength : Nat := 2097152

def maxInterpreters : Nat := 5

/-- The files to try in order. A name without a directory is looked for along the search
path of the program's own environment, where empty entries stand for the working
directory. -/
def candidates (launch : Launch) : List String :=
  if Path.directoryPart launch.executable ≠ "" then [launch.executable]
  else
    let path := (launch.environment.get? "PATH").getD defaultPath
    ((Text.fields ':' path.toList).map String.ofList).map (Path.join · launch.executable)

/-- The lengths of the texts that a program gets, each with its end mark: its arguments,
and its variables with the equals sign between name and value. -/
def textLengths (argv : List Bytes) (environment : Environment) : List Nat :=
  argv.map (·.length + 1) ++
    environment.map fun entry => byteLength entry.1 + byteLength entry.2 + 2

def totalLength (path : Bytes) (lengths : List Nat) : Nat :=
  lengths.foldl (fun total length => total + length + referenceLength) (path.length + 1)

def isTooLong (path : Bytes) (argv : List Bytes) (environment : Environment) : Bool :=
  let lengths := textLengths argv environment
  lengths.any (maxTextLength < ·) || maxTotalLength < totalLength path lengths

structure Surroundings where
  programs : Programs
  world : World
  environment : Environment
  /-- A file that is open for writing, and so cannot be executed. -/
  busy : Option Location

def programFile (around : Surroundings) (path : String) : Except SystemCause File :=
  match around.world.find path .entry with
  | .error cause => .error cause
  | .ok (.directory _) => .error .accessDenied
  | .ok (.link _) | .ok (.vacant _ _) => .error .noSuchEntry
  | .ok (.file location file) =>
    if !file.executable then .error .accessDenied
    else if around.busy = some location then .error .textBusy
    else .ok file

def missingIn (world : World) (directory : String) : SystemCause :=
  match world.find directory .entry with
  | .error cause => cause
  | .ok _ => .noSuchEntry

/-- The file of an interpreter. Names of files are texts, so a name that is none is not to
be found where the names before it lead. -/
def interpreterFile (around : Surroundings) (name : Bytes) : Except SystemCause File :=
  if name.isEmpty then .error .accessDenied
  else match Bytes.toText? name with
    | some path => programFile around path
    | none =>
      let before := ((Text.fields 0x2F name).map Bytes.toText?).takeWhile Option.isSome
      if before.isEmpty then .error .noSuchEntry
      else .error (missingIn around.world
        (String.join (before.map fun name => name.getD "" ++ "/")))

/-- Execute a file that was found under a path. A script is handed to its interpreter,
which has to be there even where it would be one too many. -/
def execute (around : Surroundings) (interpreters : Nat) (path : Bytes) (argv : List Bytes)
    (file : File) : Except SystemCause StartedProgram :=
  if around.programs.isImage file.bytes then
    .ok { file, argv, environment := around.environment }
  else
    match Interpreter.ofScript? file.bytes with
    | none => .error .execFormat
    | some interpreter =>
      match interpreterFile around interpreter.name with
      | .error cause => .error cause
      | .ok program =>
        match interpreters with
        | 0 => .error .tooManyLinks
        | interpreters + 1 =>
          execute around interpreters interpreter.name
            (interpreter.name :: interpreter.argument.toList ++ path :: argv.tail) program

def attempt (around : Surroundings) (argv : List Bytes) (path : String) :
    Except SystemCause StartedProgram := do
  let file ← programFile around path
  let path := Bytes.ofText path
  if isTooLong path argv around.environment then throw .argumentsTooLong
  execute around maxInterpreters path argv file

def isAbsent (cause : SystemCause) : Bool := cause = .noSuchEntry || cause = .notDirectory

/-- Try candidates in order until one can be executed. The failure to report is the
first of a candidate that is there, or else the last. -/
def tryCandidates (attempt : String → Except SystemCause StartedProgram) :
    (failure : SystemCause) → List String → Except SystemCause StartedProgram
  | failure, [] => .error failure
  | failure, candidate :: later =>
    match attempt candidate with
    | .ok program => .ok program
    | .error cause => tryCandidates attempt (if isAbsent failure then cause else failure) later

/-- Start a program. Texts for the program are looked over before anything is started.
`busy` is a file that is open for writing. -/
def load (launch : Launch) (programs : Programs) (world : World) (busy : Option Location) :
    Except Fault StartedProgram :=
  if launch.environment.any fun entry => entry.1.toList.contains '=' then .error .variableName
  else if launch.candidates.any World.hasNull || launch.argv.any World.hasNull ||
      launch.environment.any (fun entry => World.hasNull entry.1 || World.hasNull entry.2) then
    .error .nullCharacter
  else
    let around : Surroundings := { programs, world, environment := launch.environment, busy }
    (tryCandidates (attempt around (launch.argv.map Bytes.ofText)) .noSuchEntry
        launch.candidates).mapError
      fun cause => .system ⟨cause, some launch.executable⟩

/-- Start a program and wait for its end. -/
def start (launch : Launch) (programs : Programs) (world : World) (busy : Option Location)
    (captured : Bool) : Except Fault Outcome :=
  (launch.load programs world busy).map (programs.conduct · world.view captured)

end Launch

def Launch.record (launch : Launch) (capture : Bool) : Log.Record :=
  .debug "executor" ("spawning " ++ launch.executable ++ " as " ++
    Text.quotedList launch.argv ++ " (capture=" ++ (if capture then "True" else "False") ++ ")")

def Outcome.record (name : String) (outcome : Outcome) : Log.Record :=
  .debug "executor" (name ++ " exited with " ++ toString outcome.status)

/-- Start a program and wait for its end. Its output is kept back when it is captured,
and else goes to the streams of the process. -/
def spawn (programs : Programs) (launch : Launch) (capture : Bool) : Action Outcome := do
  Action.log (launch.record capture)
  let machine ← get
  let outcome ← Action.ofExcept
    (launch.start programs machine.world machine.logger.openFile? capture)
  if !capture then
    Action.inherit outcome.output outcome.errors
  match launch.argv with
  | [] => throw .missingName
  | name :: _ =>
    Action.log (outcome.record name)
    return if capture then outcome else { status := outcome.status }

end CommandShell
