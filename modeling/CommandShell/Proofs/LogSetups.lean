import CommandShell.Proofs.GrowingWorlds
import CommandShell.Proofs.LogHandlers

/-! Setting the log up over and over, with records logged in between. A call that returns leaves one
handler, whatever was there before; a call that fails leaves none. So a record goes where the last call
sends it, and files of earlier calls are left alone. -/

namespace CommandShell

def Config.logThreshold (config : Config) : Int :=
  if config.logLevel = 0 then Log.Level.warning else config.logLevel

namespace Log

inductive Event where
  | setUp (config : Config)
  | record (record : Record)
  deriving DecidableEq, Repr

def Event.record? : Event → Option Record
  | .setUp _ => none
  | .record logged => some logged

/-- Where a configuration sends records: to its log file, or else to the error stream if it asks for
low levels, or else nowhere. -/
inductive Destination (config : Config) (world : World) : Sink → Prop where
  | file {path : String} {location : Location} (asked : config.logPath? = some path)
      (leads : LeadsTo world path location) : Destination config world (.file (some location))
  | console (unasked : config.logPath? = none) (low : config.logLevel < Level.warning) :
      Destination config world .console
  | nowhere (unasked : config.logPath? = none) (high : Level.warning ≤ config.logLevel) :
      Destination config world .nowhere

inductive Receives (line : Bytes) (before : Machine) : Sink → Machine → Prop where
  | file {location : Location} {file : File}
      (held : before.world.files.get? location = some (.file file)) :
      Receives line before (.file (some location))
        { before with world := before.world.withEntry location (.file (file.add line)) }
  | console : Receives line before .console { before with console := before.console.log line }
  | nowhere : Receives line before .nowhere before

end Log

namespace Machine

/-- Set the log up. The logger that a failure leaves is kept too. -/
def setUpLog (machine : Machine) (config : Config) : Except Fault Unit × Machine :=
  let (logger, world, result) := Log.setUp machine.logger config machine.world
  (result, { machine with logger, world })

def take (machine : Machine) : Log.Event → Machine
  | .setUp config => (machine.setUpLog config).2
  | .record record => machine.emit record

def takeAll (machine : Machine) (events : List Log.Event) : Machine := events.foldl take machine

end Machine

namespace Log

/-- What a call that returns leaves, whatever handlers there were before. -/
structure Settles (config : Config) (sink : Sink) (before after : Machine) : Prop where
  anyway : ∀ roster : Roster, roster.moment = before.logger.moment →
    roster.setUp config before.world = (after.logger.roster, after.world, .ok ())
  roster : after.logger.roster =
    ⟨config.logLevel, [⟨sink, config.logLevel⟩], false, before.logger.moment⟩
  leads : Destination config after.world sink
  others : ∀ location file, before.world.files.get? location = some (.file file) →
    sink ≠ .file (some location) → after.world.files.get? location = some (.file file)

structure Emits (config : Config) (sink : Sink) (record : Record) (before : Machine) : Prop where
  handed : before.emit record =
    (before.logger.roster.deliveries record).foldl Machine.carryOut before
  once : (before.logger.roster.deliveries record).length =
    if config.logThreshold ≤ record.level then 1 else 0
  leads : Destination config before.world sink
  received : config.logThreshold ≤ record.level →
    Receives (record.line before.logger.moment) before sink (before.emit record)

structure Reopens (location : Location) (machine : Machine) (config : Config) : Prop where
  returned : (machine.setUpLog config).1 = .ok ()
  leads : Destination config (machine.setUpLog config).2.world (.file (some location))

inductive Reopened (location : Location) : Machine → List Event → Prop where
  | now {machine : Machine} {config : Config} {later : List Event}
      (reopens : Reopens location machine config) : Reopened location machine (.setUp config :: later)
  | later {machine : Machine} {event : Event} {later : List Event}
      (reopened : Reopened location (machine.take event) later) :
      Reopened location machine (event :: later)

variable {world opened after : World} {path : String} {location : Location} {file : File}
  {config : Config} {sink : Sink} {record : Record}

theorem fullPath_congr (same : after.directory = world.directory) (path : String) :
    fullPath after path = fullPath world path := by
  simp only [fullPath, World.workingDirectory, same]

theorem LeadsTo.later (leads : LeadsTo world path location) (grown : world.GrownInPlace after) :
    LeadsTo after path location := by
  obtain ⟨full, file, same, found⟩ := leads
  have reached := FileSystem.walk_grown grown.entries found
  obtain ⟨last, -, reached⟩ := reached.2 (by decide)
  refine ⟨full, last, (fullPath_congr grown.directory path).trans same, ?_⟩
  rw [World.find, grown.directory]
  exact reached

theorem Destination.later (leads : Destination config world sink) (grown : world.GrownInPlace after) :
    Destination config after sink := by
  cases leads with
  | file asked leads => exact .file asked (leads.later grown)
  | console unasked low => exact .console unasked low
  | nowhere unasked high => exact .nowhere unasked high

theorem LeadsTo.held (leads : LeadsTo world path location) :
    ∃ file, world.files.get? location = some (.file file) := by
  obtain ⟨full, file, -, found⟩ := leads
  exact ⟨file, World.find_file found⟩

/-- The file that is opened is the one that the path leads to. -/
theorem openLog_leads (answered : openLog world path = (opened, .ok location)) :
    LeadsTo opened path location := by
  obtain ⟨made, -, ⟨fault, refused⟩ | ⟨full, other, place, same, written, succeeded⟩⟩ :=
    openLog_cases World.GrownInPlace.refl World.GrownInPlace.trans World.makeDirectory_grown world path
  · rw [refused] at answered
    cases answered
  · rw [succeeded] at answered
    cases answered
    obtain ⟨file, rfl, -, -, found, -, -⟩ := World.openAndWrite_places written
    exact ⟨full, file, same, found⟩

/-- Opening a log file leaves all other files alone, and takes nothing from this one. -/
theorem openLog_keeps (path : String) (held : world.files.get? location = some (.file file)) :
    ∃ kept, (openLog world path).1.files.get? location = some (.file kept) ∧
      kept.bytes = file.bytes ∧ ((openLog world path).2 ≠ .ok location → kept = file) := by
  obtain ⟨made, keeps, ⟨fault, refused⟩ | ⟨full, opened, place, -, written, succeeded⟩⟩ :=
    openLog_cases World.KeepsFiles.refl World.KeepsFiles.trans World.makeDirectory_keeps world path
  · rw [refused]
    exact ⟨file, keeps location file held, rfl, fun _ => rfl⟩
  have still := keeps location file held
  rw [succeeded]
  obtain ⟨last, rfl, free, -, -, bytes, -⟩ := World.openAndWrite_places written
  by_cases same : location = place
  · subst same
    refine ⟨last, FileSystem.get?_set_self _ free _, ?_, fun other => absurd rfl other⟩
    rw [bytes, FileSystem.fileAt_of_file still]
    exact List.append_nil _
  · exact ⟨file, (FileSystem.get?_set_other _ same _).trans still, rfl, fun _ => rfl⟩

end Log

namespace Machine

open Log

variable {machine : Machine} {config : Config} {record : Record} {location : Location} {file : File}

/-- All that a call can come to: it returns with one handler, or it fails with none. -/
theorem setUpLog_cases (machine : Machine) (config : Config) :
    (∃ sink, (machine.setUpLog config).1 = .ok () ∧
      Settles config sink machine (machine.setUpLog config).2) ∨
    ∃ fault, (machine.setUpLog config).1 = .error fault ∧
      (machine.setUpLog config).2.logger.roster =
        ⟨config.logLevel, [], false, machine.logger.moment⟩ ∧
      machine.world.KeepsFiles (machine.setUpLog config).2.world := by
  have anyway := fun (roster : Roster) (same : roster.moment = machine.logger.moment) =>
    Roster.setUp_eq same config machine.world
  unfold setUpLog
  rcases answered : Log.setUp machine.logger config machine.world with ⟨logger, world, result⟩
  simp only [answered] at anyway
  unfold Log.setUp at answered
  dsimp only at answered ⊢
  cases asked : config.logPath? with
  | none =>
    rw [asked] at answered
    cases answered
    refine .inl ⟨_, rfl, anyway, rfl, ?_, fun _ _ held _ => held⟩
    dsimp only
    split
    · next low => exact .console asked low
    · next high => exact .nowhere asked (Int.not_lt.mp high)
  | some path =>
    have keeps : ∀ location file, machine.world.files.get? location = some (.file file) →
        (openLog machine.world path).2 ≠ .ok location →
          (openLog machine.world path).1.files.get? location = some (.file file) := by
      intro location file held unopened
      obtain ⟨kept, stored, -, same⟩ := openLog_keeps path held
      rwa [same unopened] at stored
    simp only [asked] at answered
    rcases opening : openLog machine.world path with ⟨opened, fault | location⟩
    · simp only [opening] at answered keeps
      cases answered
      exact .inr ⟨fault, rfl, rfl, fun location file held => keeps location file held nofun⟩
    · simp only [opening] at answered keeps
      cases answered
      refine .inl ⟨_, rfl, anyway, rfl, .file asked (openLog_leads opening), ?_⟩
      intro other file held different
      apply keeps other file held
      rintro ⟨⟩
      exact different rfl

theorem setUpLog_content (config : Config)
    (held : machine.world.files.get? location = some (.file file)) :
    ∃ kept, (machine.setUpLog config).2.world.files.get? location = some (.file kept) ∧
      kept.bytes = file.bytes := by
  unfold setUpLog Log.setUp
  cases config.logPath? with
  | none => exact ⟨file, held, rfl⟩
  | some path =>
    obtain ⟨kept, stored, same, -⟩ := openLog_keeps path held
    dsimp only
    rcases opening : openLog machine.world path with ⟨opened, fault | place⟩
    · rw [opening] at stored
      exact ⟨kept, stored, same⟩
    · rw [opening] at stored
      exact ⟨kept, stored, same⟩

/-- A file that a call does not open stays as it is, and is not logged to. -/
theorem setUpLog_keeps (held : machine.world.files.get? location = some (.file file))
    (unopened : ¬Reopens location machine config) :
    (machine.setUpLog config).2.world.files.get? location = some (.file file) ∧
      (machine.setUpLog config).2.logger.openFile? ≠ some location := by
  rcases machine.setUpLog_cases config with ⟨sink, returned, settles⟩ | ⟨fault, -, bare, kept⟩
  · have away : sink ≠ .file (some location) := by
      rintro rfl
      exact unopened ⟨returned, settles.leads⟩
    refine ⟨settles.others location file held away, ?_⟩
    intro opened
    obtain ⟨handler, member, same⟩ := Logger.handler_of_openFile? opened
    rw [settles.roster, List.mem_singleton] at member
    subst member
    exact away same
  · refine ⟨kept location file held, ?_⟩
    intro opened
    obtain ⟨handler, member, -⟩ := Logger.handler_of_openFile? opened
    rw [bare] at member
    cases member

theorem moment_take (machine : Machine) (event : Event) :
    (machine.take event).logger.moment = machine.logger.moment := by
  cases event with
  | record record => exact congrArg Logger.moment (machine.logger_emit record)
  | setUp config =>
    rcases machine.setUpLog_cases config with ⟨sink, -, settles⟩ | ⟨fault, -, bare, -⟩
    · exact congrArg Roster.moment settles.roster
    · exact congrArg Roster.moment bare

/-- A file that no handler writes to stays as it is until a call opens it. -/
theorem takeAll_keeps {events : List Event} (closed : machine.logger.openFile? ≠ some location)
    (unopened : ¬Reopened location machine events)
    (held : machine.world.files.get? location = some (.file file)) :
    (machine.takeAll events).world.files.get? location = some (.file file) := by
  -- A call that does not open the file leaves it without a handler again, which is what carries on.
  induction events generalizing machine with
  | nil => exact held
  | cons event later ih =>
    have afterwards : ¬Reopened location (machine.take event) later := unopened ∘ .later
    cases event with
    | record record =>
      have same := ((machine.emit_wrote record).files.entries location).eq closed
      apply ih _ afterwards (same.trans held)
      rwa [show (machine.take (.record record)).logger = machine.logger from
        machine.logger_emit record]
    | setUp config =>
      obtain ⟨kept, still⟩ := setUpLog_keeps held (unopened ∘ .now)
      exact ih still afterwards kept

/-- A call takes the log away from whatever file it went to. -/
theorem takeAll_keeps_former {later : List Event}
    (unopened : ¬Reopened location machine (.setUp config :: later))
    (held : machine.world.files.get? location = some (.file file)) :
    (machine.takeAll (.setUp config :: later)).world.files.get? location = some (.file file) := by
  have afterwards : ¬Reopened location (machine.take (.setUp config)) later := unopened ∘ .later
  obtain ⟨kept, closed⟩ := setUpLog_keeps held (unopened ∘ .now)
  have still := takeAll_keeps closed afterwards kept
  exact still

/-- Nothing but a line of the record comes to a file, and behind what it holds. -/
theorem take_content (event : Event) (held : machine.world.files.get? location = some (.file file)) :
    ∃ kept, (machine.take event).world.files.get? location = some (.file kept) ∧
      ∃ records : List Record, records.Sublist event.record?.toList ∧
        kept.bytes = file.bytes ++ machine.logger.lines records := by
  cases event with
  | setUp config =>
    obtain ⟨kept, stored, same⟩ := setUpLog_content config held
    exact ⟨kept, stored, [], .slnil, by rw [same]; exact (List.append_nil _).symm⟩
  | record record =>
    rw [show machine.take (.record record) = machine.emit record from rfl]
    cases delivered : machine.logger.deliver record with
    | dropped =>
      rw [emit_of_dropped delivered]
      exact ⟨file, held, [], List.nil_sublist _, (List.append_nil _).symm⟩
    | toConsole data =>
      rw [emit_of_toConsole delivered]
      exact ⟨file, held, [], List.nil_sublist _, (List.append_nil _).symm⟩
    | toFile place data =>
      obtain ⟨-, line⟩ := Logger.deliver_toFile delivered
      rw [line] at delivered
      rw [emit_of_toFile delivered]
      dsimp only
      rw [FileSystem.get?_appendAt, held]
      by_cases same : location = place
      · rw [if_pos same]
        exact ⟨_, rfl, [record], .refl _, file.bytes_add _⟩
      · rw [if_neg same]
        exact ⟨file, rfl, [], List.nil_sublist _, (List.append_nil _).symm⟩

theorem takeAll_content (events : List Event)
    (held : machine.world.files.get? location = some (.file file)) :
    ∃ kept, (machine.takeAll events).world.files.get? location = some (.file kept) ∧
      ∃ records : List Record, records.Sublist (events.filterMap Event.record?) ∧
        kept.bytes = file.bytes ++ machine.logger.lines records := by
  induction events generalizing machine file with
  | nil => exact ⟨file, held, [], .slnil, (List.append_nil _).symm⟩
  | cons event later ih =>
    obtain ⟨middle, stored, first, among, grown⟩ := take_content event held
    obtain ⟨kept, last, others, behind, more⟩ := ih stored
    refine ⟨kept, last, first ++ others, ?_, ?_⟩
    · rw [show (event :: later).filterMap Event.record? =
          event.record?.toList ++ later.filterMap Event.record? by cases event <;> rfl]
      exact among.append behind
    · have same : (machine.take event).logger.lines others = machine.logger.lines others := by
        simp only [Logger.lines, moment_take]
      rw [more, grown, same, List.append_assoc, Logger.lines, Logger.lines, Logger.lines,
        List.flatMap_append]

theorem takeAll_append (machine : Machine) (earlier later : List Event) :
    machine.takeAll (earlier ++ later) = (machine.takeAll earlier).takeAll later :=
  List.foldl_append

theorem takeAll_records (machine : Machine) (records : List Record) :
    machine.takeAll (records.map .record) = machine.emitAll records :=
  List.foldl_map

/-- A machine with one handler hands a record to it, or to none. -/
theorem emits_of_single {sink : Sink}
    (settled : machine.logger.roster =
      ⟨config.logLevel, [⟨sink, config.logLevel⟩], false, machine.logger.moment⟩)
    (leads : Destination config machine.world sink) (own : record.IsOwn) (positive : 0 < record.level) :
    Emits config sink record machine := by
  have handed := machine.emit_eq_deliveries own
  have decided : machine.logger.roster.deliveries record =
      if config.logThreshold ≤ record.level then [sink.delivery (record.line machine.logger.moment)]
      else [] := by
    rw [settled]
    exact Roster.deliveries_of_single rfl positive
  refine ⟨handed, ?_, leads, ?_⟩
  · rw [decided]
    split <;> rfl
  · intro high
    rw [handed, decided, if_pos high, List.foldl_cons, List.foldl_nil]
    cases leads with
    | file asked leads =>
      obtain ⟨file, held⟩ := leads.held
      simp only [Sink.delivery, carryOut, World.appendAt, FileSystem.appendAt, held]
      exact .file held
    | console unasked low => exact .console
    | nowhere unasked high => exact .nowhere

/-- Records between a call and a record make no difference to where the record goes. -/
theorem emits_of_settles {before after : Machine} {sink : Sink} (settles : Settles config sink before after)
    (records : List Record) (own : record.IsOwn) (positive : 0 < record.level) :
    Emits config sink record (after.emitAll records) := by
  have same : (after.emitAll records).logger = after.logger :=
    (after.emitAll_wrote records).logger
  have moment : after.logger.moment = before.logger.moment := congrArg Roster.moment settles.roster
  apply emits_of_single _ (settles.leads.later (after.grown_emitAll records)) own positive
  rw [same, moment]
  exact settles.roster

/-- The log can be set up any number of times, with failures and records in between. A call that returns
leaves one handler, which depends on its configuration alone. A record of the shell then goes once to the
destination of that configuration and nowhere else, if its level is high enough, and else it goes
nowhere. From a call on, a file stays as it is until another call opens it, and no file ever loses what
it holds: only lines of records come behind. -/
theorem setUps_settle (machine : Machine) :
    (∀ earlier config, ((machine.takeAll earlier).setUpLog config).1 = .ok () → ∃ sink,
      Settles config sink (machine.takeAll earlier) (machine.takeAll (earlier ++ [.setUp config])) ∧
        ∀ (records : List Record) (record : Record), record.IsOwn → 0 < record.level →
          Emits config sink record
            (machine.takeAll (earlier ++ .setUp config :: records.map .record))) ∧
    (∀ earlier config later location file,
      (machine.takeAll earlier).world.files.get? location = some (.file file) →
        ¬Reopened location (machine.takeAll earlier) (.setUp config :: later) →
          (machine.takeAll (earlier ++ .setUp config :: later)).world.files.get? location =
            some (.file file)) ∧
    ∀ events location file, machine.world.files.get? location = some (.file file) →
      ∃ kept, (machine.takeAll events).world.files.get? location = some (.file kept) ∧
        ∃ records : List Record, records.Sublist (events.filterMap Event.record?) ∧
          kept.bytes = file.bytes ++ machine.logger.lines records := by
  refine ⟨?_, ?_, fun events location file => takeAll_content events⟩
  · intro earlier config returned
    rcases (machine.takeAll earlier).setUpLog_cases config with
      ⟨sink, -, settles⟩ | ⟨fault, refused, -⟩
    · refine ⟨sink, ?_, ?_⟩
      · rw [takeAll_append]
        exact settles
      · intro records record own positive
        have emitted := emits_of_settles settles records own positive
        rw [← takeAll_records] at emitted
        rw [takeAll_append]
        exact emitted
    · rw [refused] at returned
      cases returned
  · intro earlier config later location file held unopened
    rw [takeAll_append]
    exact takeAll_keeps_former unopened held

def linked : Machine :=
  { world :=
      { files := (FileSystem.setDirectories { owned := [] } ["dir", "sub"]).set ["x"] (.link "sub/dir")
        directory := .root } }

/-- Where `..` follows a link, the log file is not the file of the path that is asked for. A file from an
earlier call can get more records in this way, though no path of it is asked for again. -/
theorem setUps_cross :
    let first : Config := { logFile := some "log", logLevel := 10 }
    let second : Config := { logFile := some "x/../log", logLevel := 10 }
    let record : Record := { logger := "pyshell.probe", level := 20, message := "hi" }
    let line := record.line linked.logger.moment
    let before := linked.takeAll [.setUp first, .record record]
    let after := before.takeAll [.setUp second, .record record]
    ((linked.setUpLog first).1 = .ok () ∧ (before.setUpLog second).1 = .ok ()) ∧
      record.IsOwn ∧ second.logThreshold ≤ record.level ∧ line ≠ [] ∧
      (before.world.readFile "log" = .ok line ∧ after.world.readFile "log" = .ok (line ++ line)) ∧
      after.world.readFile "x/../log" = .error (.system ⟨.noSuchEntry, some "x/../log"⟩) := by
  unfold Record.IsOwn
  decide +kernel

end Machine

end CommandShell
