import CommandShell.Proofs.Actions
import CommandShell.Proofs.Records

/-! Rules for properties of actions. A property that holds of the single steps, and that is kept
where steps are put together, holds of the running of a whole line. The rules speak of the actions
as they are, so they say once how a line is run. -/

namespace CommandShell.Action

/-- Rules by which a property of actions is shown. Only records of the shell are ever logged. -/
structure Rules (Holds : ∀ {α : Type}, Action α → Prop) : Prop where
  pure : ∀ {α : Type} (value : α), Holds (Pure.pure value)
  throw : ∀ {α : Type} (fault : Fault), Holds (MonadExcept.throw fault : Action α)
  bind : ∀ {α β : Type} {action : Action α} {next : α → Action β}, Holds action →
    (∀ value, Holds (next value)) → Holds (action >>= next)
  tryCatch : ∀ {α : Type} {action : Action α} {handler : Fault → Action α}, Holds action →
    (∀ fault, Holds (handler fault)) → Holds (MonadExcept.tryCatch action handler)
  inspect : ∀ {α : Type} (question : World → α), Holds (inspect question)
  log : ∀ {record : Log.Record}, record.IsOwn → Holds (log record)
  write : ∀ data, Holds (write data)
  writeError : ∀ data, Holds (writeError data)
  rememberStatus : ∀ status, Holds (Execution.rememberStatus status)
  lastStatus : Holds (do return (← get).lastStatus : Action Int)
  inherit : ∀ output errors, Holds (inherit output errors)
  start : ∀ (launch : Launch) programs capture, Holds do
    let machine ← get
    ofExcept (launch.start programs machine.world machine.logger.openFile? capture)
  runBuiltin : ∀ builtin settings arguments, Holds (Execution.runBuiltin builtin settings arguments)
  writeRedirected : ∀ command redirection data, Holds (writeRedirected command redirection data)

namespace Rules

open Execution Log

variable {Holds : ∀ {α : Type}, Action α → Prop} (rules : Rules @Holds)
include rules

theorem ofExcept {α : Type} (answer : Except Fault α) : Holds (Action.ofExcept answer) := by
  cases answer with
  | ok value => exact rules.pure value
  | error fault => exact rules.throw fault

theorem writeTo (stream : Stream) (data : Bytes) : Holds (Action.writeTo stream data) := by
  cases stream with
  | output => exact rules.write data
  | error => exact rules.writeError data

theorem logged {α : Type} {record : Record} (own : record.IsOwn) (value : α) : Holds (do
    Action.log record
    return value) := rules.bind (rules.log own) fun _ => rules.pure value

variable (settings : Settings) (command : CommandLine)

theorem resolveName (name : String) : Holds (resolveName settings name) := by
  apply rules.bind (rules.inspect _)
  intro resolution
  exact rules.logged (Record.isOwn_debug _ _) resolution

theorem spawn (programs : Programs) (launch : Launch) (capture : Bool) :
    Holds (spawn programs launch capture) := by
  unfold CommandShell.spawn
  apply rules.bind (rules.log (Record.isOwn_debug _ _))
  intro _
  rw [← bind_assoc]
  apply rules.bind (rules.start launch programs capture)
  intro outcome
  have told : Holds (tellEnd launch capture outcome) := by
    unfold tellEnd
    cases launch.argv with
    | nil => exact rules.throw _
    | cons name arguments => exact rules.logged (Record.isOwn_debug _ _) _
  cases capture with
  | true => exact told
  | false => exact rules.bind (rules.inherit _ _) fun _ => told

theorem runCaptured : Holds (runCaptured settings command) := by
  apply rules.bind (rules.resolveName settings _)
  intro resolution
  cases resolution with
  | notFound name => exact rules.throw _
  | program path => exact rules.spawn _ _ _
  | builtin builtin =>
    apply rules.bind (rules.runBuiltin builtin settings _)
    intro report
    exact rules.bind (rules.ofExcept _) fun _ => rules.pure _

theorem runInherited : Holds (runInherited settings command) := by
  apply rules.bind (rules.resolveName settings _)
  intro resolution
  cases resolution with
  | notFound name => exact rules.throw _
  | program path => exact rules.bind (rules.spawn _ _ _) fun _ => rules.pure _
  | builtin builtin =>
    apply rules.bind (rules.runBuiltin builtin settings _)
    intro report
    apply rules.bind (rules.write _)
    intro _
    apply rules.bind (rules.writeError _)
    intro _
    exact rules.ofExcept _

theorem run : Holds (run settings command) := by
  unfold Execution.run
  cases command.redirection with
  | none => exact rules.runInherited settings command
  | some redirection =>
    apply rules.bind (rules.runCaptured settings command)
    intro outcome
    apply rules.bind
    · exact rules.bind (rules.writeTo _ _) fun _ => rules.writeRedirected _ _ _
    · intro _
      exact rules.pure _

theorem recover (fault : Fault) : Holds (recover command fault) := by
  unfold Execution.recover
  split
  · exact rules.bind (rules.writeError _) fun _ => rules.pure _
  · exact rules.bind (rules.writeError _) fun _ => rules.pure _
  · apply rules.bind (rules.log ((Record.isOwn_debug _ _).because _))
    intro _
    exact rules.bind (rules.writeError _) fun _ => rules.pure _
  · exact rules.throw _

theorem execute : Holds (execute settings command) := by
  unfold Execution.execute
  split
  · exact rules.pure _
  · apply rules.bind (rules.tryCatch (rules.run settings command) (rules.recover command))
    intro status
    exact rules.bind (rules.rememberStatus status) fun _ => rules.pure _

theorem wordsOf (line : String) : Holds (wordsOf settings line) := by
  have split (words : List String) : Holds (do
      Action.log (splitRecord (Text.quoted line) words)
      return words) := rules.logged (Record.isOwn_debug _ _) words
  apply rules.bind (rules.ofExcept _)
  intro words
  cases Words.openMark line.toList with
  | none => exact split words
  | some mark => exact rules.bind (rules.log (Record.isOwn_debug _ _)) fun _ => split words

theorem commandOf (words : List String) : Holds (commandOf words) := by
  apply rules.bind (rules.ofExcept _)
  intro found
  apply rules.bind (rules.ofExcept _)
  intro command
  cases command.redirection with
  | none => exact rules.pure _
  | some redirection =>
    dsimp only
    split
    · exact rules.logged (Record.isOwn_warning _ _) command
    · exact rules.pure _

theorem runLine (line : String) : Holds (runLine settings line) := by
  apply rules.bind (rules.wordsOf settings line)
  intro words
  split
  · exact rules.pure _
  apply rules.bind (rules.commandOf words)
  intro command
  exact rules.bind (rules.execute settings command) fun _ => rules.pure _

/-- What the rules show of the single steps holds of a whole line. -/
theorem runOne (line : String) : Holds (runOne settings line) := by
  apply rules.bind (rules.tryCatch (rules.runLine settings line) ?_)
  · intro status
    cases status with
    | none => exact rules.lastStatus
    | some status => exact rules.bind (rules.rememberStatus status) fun _ => rules.pure _
  · intro fault
    cases fault with
    | shell error => exact rules.bind (rules.writeError _) fun _ => rules.pure _
    | _ => exact rules.throw _

end Rules

end CommandShell.Action
