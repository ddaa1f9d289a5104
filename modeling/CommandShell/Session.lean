import CommandShell.Completer
import CommandShell.Execution

/-! An interactive session: settings, the machine that lines run on, and the state of
completion. Lines do not see the state of completion, and requests for completion
change nothing else but the output stream and the log. -/

namespace CommandShell

structure Session where
  settings : Settings
  machine : Machine
  completion : CompletionState := {}

namespace Session

def perform {α : Type} (session : Session) (action : Action α) : Except Fault α × Session :=
  let (result, machine) := action.run.run session.machine
  (result, { session with machine })

def commandNames (session : Session) (path : String) : Except Fault (List String) × Session :=
  session.perform do
    let (records, names) ← Action.inspect (·.commandNames path)
    Action.logAll records
    Action.ofExcept names

def candidatesOr (session : Session) (candidates : Option (List String)) :
    Except Fault (List String) × Session :=
  match candidates with
  | some given => (.ok given, session)
  | none => session.commandNames (session.settings.searchPath (some session.settings.path))

/-- Answer a request for completion, among candidates or else among all that can be run. -/
def complete (session : Session) (request : String) (candidates : Option (List String)) :
    Except Fault Proposal × Session :=
  match session.candidatesOr candidates with
  | (.error fault, session) => (.error fault, session)
  | (.ok names, session) =>
    let (proposal, completion) := Completer.propose session.completion request names
    let machine := session.machine.emitAll (Completer.records request proposal)
    (.ok proposal, { session with machine, completion })

/-- Make a proposal for a word of a line, and show what a line editor cannot show by itself. Only
the first word of a line is completed. -/
def propose (session : Session) (text line : String) (position : Int) :
    Except Fault (Option Proposal) × Session :=
  if Completer.isArgument line position then (.ok none, session)
  else
    match session.complete text none with
    | (.error fault, session) => (.error fault, session)
    | (.ok proposal, session) =>
      let shown := Completer.display session.settings.config.prompt line proposal
      let (_, session) := session.perform (Action.write (Bytes.ofText shown))
      (.ok (some proposal), session)

/-- Answer the completer call of a line editor, which asks for one text after another
until it gets none. Only the first call for a word can have an answer. -/
def tab (session : Session) (text : String) (call : Int) (line : String) (position : Int) :
    Except Fault (Option String) × Session :=
  if call ≠ 0 then (.ok none, session)
  else
    let (proposed, session) := session.propose text line position
    (proposed.map (·.bind Completer.replacement?), session)

end Session

inductive InputEvent where
  | line (text : String)
  | interrupt
  | endOfInput
  deriving DecidableEq, Repr

structure LoopEnd where
  asked : Nat
  unread : List InputEvent
  deriving DecidableEq, Repr

namespace LoopEnd

/-- The status of the shell itself, which those of the lines have no part in. -/
def status (_ : LoopEnd) : Int := 0

def askedOnceMore (loopEnd : LoopEnd) : LoopEnd := { loopEnd with asked := loopEnd.asked + 1 }

end LoopEnd

/-- Ask for lines and run them until the shell is told to exit or the input ends. An
interrupt drops the line. `ask` shows the prompt. -/
def readAndRun (settings : Settings) (ask : Action Unit) : List InputEvent → Action LoopEnd
  | [] => do
    if !(← get).running then return ⟨0, []⟩
    ask
    Action.write (Bytes.ofText "\n")
    return ⟨1, []⟩
  | event :: later => do
    if !(← get).running then return ⟨0, event :: later⟩
    ask
    match event with
    | .endOfInput =>
      Action.write (Bytes.ofText "\n")
      return ⟨1, later⟩
    | .interrupt =>
      Action.write (Bytes.ofText "\n")
      return (← readAndRun settings ask later).askedOnceMore
    | .line text =>
      let _ ← Execution.runOne settings text
      return (← readAndRun settings ask later).askedOnceMore

end CommandShell
