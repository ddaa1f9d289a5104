import CommandShell.Proofs.ActionRules
import CommandShell.Proofs.ParallelActions
import CommandShell.Proofs.RedirectedRuns

/-! Lines that leave no record. Where the logger keeps none, all that comes out on the error stream
has been written there, and no file holds records. So what is said of a line aside from log records
holds of it exactly. -/

namespace CommandShell

namespace Log.Logger

variable {logger : Logger} {location : Location}

def IsSilent (logger : Logger) : Prop :=
  ∀ record : Record, record.IsOwn → logger.deliver record = .dropped

theorem isSilent_of_nowhere {level : Int} (handled : logger.handler = some ⟨.nowhere, level⟩) :
    logger.IsSilent := by
  intro record own
  unfold Record.IsOwn at own
  simp only [deliver, own, handled, Bool.not_true, Bool.false_eq_true, if_false, ite_self]

theorem isSilent_silent : silent.IsSilent := isSilent_of_nowhere rfl

/-- So it is after a setup that asks for no records below warnings, and for no file. -/
theorem isSilent_setUp {config : Config} (unfiled : config.logPath? = none)
    (quiet : Level.warning ≤ config.logLevel) (logger : Logger) (world : World) :
    (setUp logger config world).1.IsSilent := by
  have handled : (setUp logger config world).1.handler = some ⟨.nowhere, config.logLevel⟩ := by
    simp only [setUp, unfiled, if_neg (Int.not_lt.mpr quiet)]
  exact isSilent_of_nowhere handled

/-- A file would get a record that is urgent enough. -/
theorem IsSilent.openFile? (silent : logger.IsSilent) : logger.openFile? = none := by
  cases opened : logger.openFile? with
  | none => rfl
  | some location =>
    obtain ⟨level, handled⟩ : ∃ level, logger.handler = some ⟨.file (some location), level⟩ := by
      unfold Logger.openFile? at opened
      split at opened
      · next place level handled =>
        subst opened
        exact ⟨level, handled⟩
      · cases opened
    obtain ⟨urgent, positive, loud, heard⟩ :
        ∃ urgent : Int, ¬urgent ≤ 0 ∧ ¬urgent < logger.threshold ∧ ¬urgent < level :=
      ⟨max 1 (max logger.threshold level), by omega, by omega, by omega⟩
    have own : isOfShell Record.shellLogger = true := rfl
    have dropped := silent { logger := Record.shellLogger, level := urgent, message := "" } own
    simp only [deliver, own, handled, if_neg positive, if_neg loud, if_neg heard, Bool.not_true,
      Bool.false_eq_true, if_false, reduceCtorEq] at dropped

/-- Nothing changes where only the log file may. -/
theorem IsSilent.eq_of_extends {first second : Option Entry} (silent : logger.IsSilent)
    (grown : logger.Extends location first second) : second = first := by
  apply grown.eq
  rw [silent.openFile?]
  simp

end Log.Logger

def Chunk.isWritten : Chunk → Bool
  | written _ | inherited _ => true
  | logged _ => false

namespace Console

theorem errorBytes_cons (output errors : List Chunk) (chunk : Chunk) :
    errorBytes ⟨output, chunk :: errors⟩ = errorBytes ⟨output, errors⟩ ++ chunk.bytes :=
  Transcript.toBytes_add ⟨errors.map Chunk.bytes⟩ _

theorem writtenErrors_cons (output errors : List Chunk) (chunk : Chunk) :
    writtenErrors ⟨output, chunk :: errors⟩ = writtenErrors ⟨output, errors⟩ ++ chunk.writtenBytes :=
  Transcript.toBytes_add ⟨errors.map Chunk.writtenBytes⟩ _

/-- Pieces that are no records add the same to what was written and to what came out. -/
theorem exists_written {before after : Console} {chunks : List Chunk}
    (added : after.errorChunks = chunks ++ before.errorChunks)
    (written : ∀ chunk ∈ chunks, chunk.isWritten = true) :
    ∃ data, after.errorBytes = before.errorBytes ++ data ∧
      after.writtenErrors = before.writtenErrors ++ data := by
  obtain ⟨output, errors⟩ := after
  dsimp only at added
  subst added
  induction chunks with
  | nil => exact ⟨[], (List.append_nil _).symm, (List.append_nil _).symm⟩
  | cons chunk chunks ih =>
    obtain ⟨first, others⟩ := List.forall_mem_cons.mp written
    obtain ⟨data, came, kept⟩ := ih others
    have same : chunk.writtenBytes = chunk.bytes := by
      cases chunk with
      | written data | inherited data => rfl
      | logged data => cases first
    refine ⟨data ++ chunk.bytes, ?_, ?_⟩
    · rw [List.cons_append, errorBytes_cons, came, List.append_assoc]
    · rw [List.cons_append, writtenErrors_cons, kept, same, List.append_assoc]

end Console

/-- Whether a step has put no record on the error stream. -/
def Unrecorded (before after : Machine) : Prop :=
  ∃ output chunks, Adds before after output chunks ∧ ∀ chunk ∈ chunks, chunk.isWritten = true

namespace Unrecorded

variable {first second third : Machine}

theorem of_console (console : second.console = first.console)
    (logger : second.logger = first.logger) : Unrecorded first second :=
  ⟨[], [], ⟨by rw [console, List.append_nil], by rw [console]; rfl, logger⟩, by simp⟩

theorem refl (machine : Machine) : Unrecorded machine machine := of_console rfl rfl

theorem trans (earlier : Unrecorded first second) (later : Unrecorded second third) :
    Unrecorded first third := by
  obtain ⟨output, chunks, adds, written⟩ := earlier
  obtain ⟨more, further, also, unlogged⟩ := later
  refine ⟨_, _, adds.trans also, ?_⟩
  intro chunk member
  rcases List.mem_append.mp member with member | member
  · exact unlogged chunk member
  · exact written chunk member

theorem logger (unrecorded : Unrecorded first second) : second.logger = first.logger := by
  obtain ⟨output, chunks, adds, -⟩ := unrecorded
  exact adds.logger

/-- What was written on the error stream is what came out there. -/
theorem errorBytes (unrecorded : Unrecorded first second) {output errors : Bytes}
    (spoke : Spoke first second output errors) :
    second.console.errorBytes = first.console.errorBytes ++ errors := by
  obtain ⟨_, chunks, adds, written⟩ := unrecorded
  obtain ⟨data, came, kept⟩ := Console.exists_written adds.errors written
  rw [came, List.append_cancel_left (kept.symm.trans spoke.errors)]

theorem emit {machine : Machine} (silent : machine.logger.IsSilent) {record : Log.Record}
    (own : record.IsOwn) : Unrecorded machine (machine.emit record) := by
  rw [Machine.emit_of_dropped (silent record own)]
  exact refl machine

theorem emitAll {machine : Machine} (silent : machine.logger.IsSilent) {records : List Log.Record}
    (own : ∀ record ∈ records, record.IsOwn) : Unrecorded machine (machine.emitAll records) := by
  induction records generalizing machine with
  | nil => exact .refl machine
  | cons record records ih =>
    obtain ⟨first, others⟩ := List.forall_mem_cons.mp own
    have step := emit silent first
    exact step.trans (ih (step.logger ▸ silent) others)

end Unrecorded

namespace Builtin

theorem run_unrecorded {machine : Machine} (silent : machine.logger.IsSilent) (builtin : Builtin)
    (settings : Settings) (arguments : List String) :
    Unrecorded machine (builtin.run settings arguments machine).1 := by
  obtain ⟨turned, records, own, turns, ended⟩ := builtin.run_turns settings arguments machine
  have told := Unrecorded.emit silent (Log.Record.isOwn_debug _ _ : (builtin.record arguments).IsOwn)
  have reached := told.trans (.of_console turns.console turns.logger)
  rw [ended]
  exact reached.trans (.emitAll (reached.logger ▸ silent) own)

end Builtin

namespace Action

variable {α β : Type} {action : Action α} {next : α → Action β}

def KeepsSilent (action : Action α) : Prop :=
  ∀ machine : Machine, machine.logger.IsSilent → Unrecorded machine (action.on machine).2

namespace KeepsSilent

theorem pure (value : α) : KeepsSilent (Pure.pure value) := fun machine _ => .refl machine

theorem throw (fault : Fault) : KeepsSilent (MonadExcept.throw fault : Action α) :=
  fun machine _ => .refl machine

theorem inspect (question : World → α) : KeepsSilent (Action.inspect question) :=
  fun machine _ => .refl machine

theorem write (data : Bytes) : KeepsSilent (Action.write data) := fun _ _ =>
  ⟨data, [], ⟨Console.output_write _ _, rfl, rfl⟩, by simp⟩

theorem writeError (data : Bytes) : KeepsSilent (Action.writeError data) := fun _ _ =>
  ⟨[], [.written data], ⟨(List.append_nil _).symm, rfl, rfl⟩, by simp [Chunk.isWritten]⟩

theorem inherit (output errors : Bytes) : KeepsSilent (Action.inherit output errors) := fun _ _ =>
  ⟨output, [.inherited errors], ⟨Console.output_inherit _ _ _, rfl, rfl⟩, by simp [Chunk.isWritten]⟩

theorem log {record : Log.Record} (own : record.IsOwn) : KeepsSilent (Action.log record) :=
  fun _ silent => .emit silent own

theorem bind (first : action.KeepsSilent) (later : ∀ value, (next value).KeepsSilent) :
    (action >>= next).KeepsSilent := by
  intro machine silent
  have step := first machine silent
  rw [on_bind]
  generalize action.on machine = ran at step ⊢
  obtain ⟨fault | value, after⟩ := ran
  · exact step
  · exact step.trans (later value after (step.logger ▸ silent))

theorem tryCatch {handler : Fault → Action α} (first : action.KeepsSilent)
    (handled : ∀ fault, (handler fault).KeepsSilent) :
    (MonadExcept.tryCatch action handler).KeepsSilent := by
  intro machine silent
  have step := first machine silent
  rw [on_tryCatch]
  generalize action.on machine = ran at step ⊢
  obtain ⟨fault | value, after⟩ := ran
  · exact step.trans (handled fault after (step.logger ▸ silent))
  · exact step

end KeepsSilent

end Action

namespace Execution

open CommandShell.Action

theorem writeRedirected_keepsSilent (name : String) (redirection : Redirection) (data : Bytes) :
    (writeRedirected name redirection data).KeepsSilent := by
  intro machine silent
  rw [writeRedirected_eq]
  have made : Unrecorded machine
      { machine with world := (machine.world.writeTarget redirection data).1 } := .of_console rfl rfl
  split
  · exact made
  · exact made.trans (.emit (made.logger ▸ silent) (Log.Record.isOwn_debug _ _))

theorem start_keepsSilent (launch : Launch) (programs : Programs) (capture : Bool) : KeepsSilent (do
    let machine ← get
    Action.ofExcept (launch.start programs machine.world machine.logger.openFile? capture)) := by
  intro machine silent
  simp only [on_bind, on_get, on_ofExcept]
  exact .refl machine

theorem silent_rules : Rules @KeepsSilent where
  pure := .pure
  throw := .throw
  bind := .bind
  tryCatch := .tryCatch
  inspect := .inspect
  log := .log
  write := .write
  writeError := .writeError
  inherit := .inherit
  rememberStatus _ _ _ := .of_console rfl rfl
  lastStatus machine _ := .refl machine
  start := start_keepsSilent
  runBuiltin builtin settings arguments _ silent := builtin.run_unrecorded silent settings arguments
  writeRedirected := writeRedirected_keepsSilent

end Execution

end CommandShell
