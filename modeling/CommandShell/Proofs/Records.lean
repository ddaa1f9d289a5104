import CommandShell.Log.Notice
import CommandShell.Machine
import CommandShell.Proofs.Entries

/-! Log records aside. Records go behind the content of the log file or among the written
errors, and nowhere else. What a step did besides is said by what it wrote on the two
streams, and by what it left as it was. -/

namespace CommandShell

namespace Log

theorem Logger.isOfShell_debug (part message : String) :
    isOfShell (Record.debug part message).logger = true := by
  simp only [isOfShell, Record.debug, String.toList_append, Bool.or_eq_true,
    List.isPrefixOf_iff_prefix]
  exact .inr (List.prefix_append _ _)

def Record.IsOwn (record : Record) : Prop := Logger.isOfShell record.logger = true

theorem Record.isOwn_debug (part message : String) : (debug part message).IsOwn :=
  Logger.isOfShell_debug part message

theorem Record.isOwn_warning (part message : String) : (warning part message).IsOwn :=
  Logger.isOfShell_debug part message

theorem Record.IsOwn.because {record : Record} (own : record.IsOwn) (incident : Option Incident) :
    ({ record with incident } : Record).IsOwn := own

end Log

namespace Log.Logger

def lines (logger : Logger) (records : List Record) : Bytes :=
  records.flatMap fun record => Bytes.ofText (record.render logger.moment ++ "\n")

/-- Whether an entry is what it was before, aside from records in the log file. -/
inductive Extends (logger : Logger) (location : Location) : Option Entry → Option Entry → Prop where
  | same (entry : Option Entry) : Extends logger location entry entry
  | recorded {before after : File} (records : List Record)
      (opened : logger.openFile? = some location)
      (executable : after.executable = before.executable)
      (added : after.bytes = before.bytes ++ logger.lines records) :
      Extends logger location (some (.file before)) (some (.file after))

variable {logger : Logger} {location : Location} {first second third : Option Entry}

theorem Extends.trans (earlier : logger.Extends location first second)
    (later : logger.Extends location second third) : logger.Extends location first third := by
  cases earlier with
  | same entry => exact later
  | recorded records opened executable added =>
    cases later with
    | same entry => exact .recorded records opened executable added
    | recorded more _ kept grown =>
      refine .recorded (records ++ more) opened (kept.trans executable) ?_
      rw [grown, added, lines, lines, lines, List.flatMap_append, List.append_assoc]

/-- Away from the log file nothing changes. -/
theorem Extends.eq (grown : logger.Extends location first second)
    (elsewhere : logger.openFile? ≠ some location) : second = first := by
  cases grown with
  | same entry => rfl
  | recorded records opened executable added => exact absurd opened elsewhere

theorem deliver_toFile {record : Record} {data : Bytes}
    (delivered : logger.deliver record = .toFile location data) :
    logger.openFile? = some location ∧ data = logger.lines [record] := by
  unfold deliver lastResort at delivered
  split at delivered
  · cases delivered
  split at delivered
  · split at delivered <;> cases delivered
  split at delivered
  · cases delivered
  split at delivered
  · split at delivered <;> cases delivered
  · next handler handled =>
    dsimp only at delivered
    split at delivered
    · cases delivered
    split at delivered
    · next sink opened =>
      injection delivered with place content
      subst place content
      obtain ⟨sink, level⟩ := handler
      subst opened
      exact ⟨by rw [openFile?, handled], by simp [lines]⟩
    all_goals cases delivered

/-- A file gets the line of a notice, made at the moment of the logger. -/
theorem line_of_toFile {notice : Notice} {data : Bytes} (bare : notice.arguments = [])
    (clock : Moment.ofMilliseconds notice.created = .ok logger.moment)
    (delivered : logger.deliver (notice.record notice.template) = .toFile location data) :
    ∃ line, notice.line = .ok line ∧ data = Bytes.ofText (line ++ "\n") := by
  obtain ⟨-, recorded⟩ := deliver_toFile delivered
  refine ⟨_, Notice.line_of_bare bare clock, ?_⟩
  rw [recorded, lines, List.flatMap_cons, List.flatMap_nil, List.append_nil]

end Log.Logger

structure FileSystem.Kept (logger : Log.Logger) (before after : FileSystem) : Prop where
  owned : after.owned = before.owned
  denied : after.denied = before.denied
  entries : ∀ location, logger.Extends location (before.get? location) (after.get? location)

namespace FileSystem.Kept

variable {logger : Log.Logger} {first second third : FileSystem}

theorem refl (files : FileSystem) : files.Kept logger files := ⟨rfl, rfl, fun _ => .same _⟩

theorem trans (earlier : first.Kept logger second) (later : second.Kept logger third) :
    first.Kept logger third :=
  ⟨later.owned.trans earlier.owned, later.denied.trans earlier.denied,
    fun location => (earlier.entries location).trans (later.entries location)⟩

end FileSystem.Kept

/-- What a step wrote on the two streams. -/
structure Spoke (before after : Machine) (output errors : Bytes) : Prop where
  output : after.console.output = before.console.output ++ output
  errors : after.console.writtenErrors = before.console.writtenErrors ++ errors
  logger : after.logger = before.logger

/-- What a step wrote on the two streams, where it changed no file, records aside. -/
structure Wrote (before after : Machine) (output errors : Bytes) : Prop
    extends Spoke before after output errors where
  files : before.world.files.Kept before.logger after.world.files

structure Stays (before after : Machine) : Prop where
  running : after.running = before.running
  directory : after.world.directory = before.world.directory

theorem Spoke.trans {first second third : Machine} {output errors later more : Bytes}
    (earlier : Spoke first second output errors) (next : Spoke second third later more) :
    Spoke first third (output ++ later) (errors ++ more) where
  output := by rw [next.output, earlier.output, List.append_assoc]
  errors := by rw [next.errors, earlier.errors, List.append_assoc]
  logger := next.logger.trans earlier.logger

namespace Wrote

variable {first second third : Machine} {output errors later more : Bytes}

theorem trans (earlier : Wrote first second output errors) (next : Wrote second third later more) :
    Wrote first third (output ++ later) (errors ++ more) where
  toSpoke := earlier.toSpoke.trans next.toSpoke
  files := earlier.files.trans (earlier.logger ▸ next.files)

/-- A step that writes nothing comes in between without a trace. -/
theorem silent_left (earlier : Wrote first second [] []) (next : Wrote second third output errors) :
    Wrote first third output errors := earlier.trans next

theorem silent_right (earlier : Wrote first second output errors)
    (next : Wrote second third [] []) : Wrote first third output errors := by
  simpa using earlier.trans next

/-- Nothing that is said here depends on the last status. -/
theorem of_unchanged (console : second.console = first.console) (logger : second.logger = first.logger)
    (files : second.world.files = first.world.files) : Wrote first second [] [] where
  output := by simp [console]
  errors := by simp [console]
  logger := logger
  files := files ▸ .refl _

theorem write (machine : Machine) (data : Bytes) :
    Wrote machine { machine with console := machine.console.write data } data [] where
  output := Console.output_write _ _
  errors := (List.append_nil _).symm
  logger := rfl
  files := .refl _

theorem writeError (machine : Machine) (data : Bytes) :
    Wrote machine { machine with console := machine.console.writeError data } [] data where
  output := (List.append_nil _).symm
  errors := Console.writtenErrors_writeError _ _
  logger := rfl
  files := .refl _

end Wrote

theorem Stays.refl (machine : Machine) : Stays machine machine := ⟨rfl, rfl⟩

theorem Stays.trans {first second third : Machine} (earlier : Stays first second)
    (later : Stays second third) : Stays first third :=
  ⟨later.running.trans earlier.running, later.directory.trans earlier.directory⟩

theorem Stays.symm {before after : Machine} (stays : Stays before after) : Stays after before :=
  ⟨stays.running.symm, stays.directory.symm⟩

section Remembering

variable {before after : Machine} {output errors : Bytes}

/-- Which status is remembered makes no difference to what was written. -/
theorem Spoke.remembering (spoke : Spoke before after output errors) (status : Int) :
    Spoke before { after with lastStatus := status } output errors :=
  ⟨spoke.output, spoke.errors, spoke.logger⟩

theorem Wrote.remembering (wrote : Wrote before after output errors) (status : Int) :
    Wrote before { after with lastStatus := status } output errors :=
  ⟨wrote.toSpoke.remembering status, wrote.files⟩

theorem Stays.remembering (stays : Stays before after) (status : Int) :
    Stays before { after with lastStatus := status } := ⟨stays.running, stays.directory⟩

end Remembering

theorem FileSystem.Kept.appendAt {logger : Log.Logger} {location : Location}
    (opened : logger.openFile? = some location) (files : FileSystem) (records : List Log.Record) :
    files.Kept logger (files.appendAt location (logger.lines records)) where
  owned := owned_appendAt _ _ _
  denied := denied_appendAt _ _ _
  entries other := by
    rw [get?_appendAt]
    split
    · next same =>
      subst same
      cases files.get? other with
      | none => exact .same _
      | some entry =>
        cases entry with
        | file held => exact .recorded records opened rfl (held.bytes_add _)
        | directory => exact .same _
        | link target => exact .same _
    · exact .same _

namespace Machine

theorem emit_of_dropped {machine : Machine} {record : Log.Record}
    (delivered : machine.logger.deliver record = .dropped) : machine.emit record = machine := by
  simp only [emit, delivered]

theorem emit_of_toConsole {machine : Machine} {record : Log.Record} {data : Bytes}
    (delivered : machine.logger.deliver record = .toConsole data) :
    machine.emit record = { machine with console := machine.console.log data } := by
  simp only [emit, delivered]

theorem emit_of_toFile {machine : Machine} {record : Log.Record} {location : Location} {data : Bytes}
    (delivered : machine.logger.deliver record = .toFile location data) :
    machine.emit record = { machine with world := { machine.world with
        files := machine.world.files.appendAt location data } } := by
  simp only [emit, delivered]

/-- Handing a record over is no more than that. -/
theorem emit_wrote (machine : Machine) (record : Log.Record) :
    Wrote machine (machine.emit record) [] [] := by
  cases delivered : machine.logger.deliver record with
  | dropped =>
    rw [emit_of_dropped delivered]
    exact .of_unchanged rfl rfl rfl
  | toConsole data =>
    rw [emit_of_toConsole delivered]
    exact ⟨⟨(List.append_nil _).symm, by simp, rfl⟩, .refl _⟩
  | toFile location data =>
    obtain ⟨opened, same⟩ := Log.Logger.deliver_toFile delivered
    rw [same] at delivered
    rw [emit_of_toFile delivered]
    exact ⟨⟨(List.append_nil _).symm, (List.append_nil _).symm, rfl⟩, .appendAt opened _ _⟩

theorem emit_stays (machine : Machine) (record : Log.Record) :
    Stays machine (machine.emit record) := by
  unfold emit
  split <;> exact ⟨rfl, rfl⟩

@[simp]
theorem lastStatus_emit (machine : Machine) (record : Log.Record) :
    (machine.emit record).lastStatus = machine.lastStatus := by
  unfold emit
  split <;> rfl

@[simp]
theorem logger_emit (machine : Machine) (record : Log.Record) :
    (machine.emit record).logger = machine.logger := (machine.emit_wrote record).logger

theorem emitAll_wrote (machine : Machine) (records : List Log.Record) :
    Wrote machine (machine.emitAll records) [] [] := by
  induction records generalizing machine with
  | nil => exact .of_unchanged rfl rfl rfl
  | cons record records ih => exact (machine.emit_wrote record).silent_left (ih _)

theorem emitAll_stays (machine : Machine) (records : List Log.Record) :
    Stays machine (machine.emitAll records) := by
  induction records generalizing machine with
  | nil => exact .refl _
  | cons record records ih => exact (machine.emit_stays record).trans (ih _)

def Logged (before after : Machine) : Prop := ∃ records, after = before.emitAll records

namespace Logged

variable {before middle after : Machine}

theorem refl (machine : Machine) : Logged machine machine := ⟨[], rfl⟩

theorem emit (machine : Machine) (record : Log.Record) : Logged machine (machine.emit record) :=
  ⟨[record], rfl⟩

theorem trans (earlier : Logged before middle) (later : Logged middle after) :
    Logged before after := by
  obtain ⟨records, rfl⟩ := earlier
  obtain ⟨more, rfl⟩ := later
  exact ⟨records ++ more, (List.foldl_append ..).symm⟩

theorem wrote (logged : Logged before after) : Wrote before after [] [] := by
  obtain ⟨records, rfl⟩ := logged
  exact before.emitAll_wrote records

theorem stays (logged : Logged before after) : Stays before after := by
  obtain ⟨records, rfl⟩ := logged
  exact before.emitAll_stays records

theorem lastStatus (logged : Logged before after) : after.lastStatus = before.lastStatus := by
  obtain ⟨records, rfl⟩ := logged
  induction records generalizing before with
  | nil => rfl
  | cons record records ih => exact ih.trans (lastStatus_emit before record)

end Logged

end Machine

end CommandShell
