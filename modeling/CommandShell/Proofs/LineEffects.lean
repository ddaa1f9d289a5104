import CommandShell.Proofs.LineOutcomes
import CommandShell.Session

/-! What a line may change. Only `exit` ends the session, and only `cd` moves it to another
directory. Of the files only the one may change that the last target leads to, and nothing is new
besides it but directories on the way there. Records in the log file are set aside. -/

namespace CommandShell

namespace World

/-- What may become of a location when a command is redirected. `Unchanged` tells which entries
count as the same. The target is looked for in the directory where the command has ended. -/
inductive Touched (Unchanged : Location → Option Entry → Option Entry → Prop)
    (directed : Option Redirection) (before after : World) (location : Location) : Prop where
  | kept (same : Unchanged location (before.files.get? location) (after.files.get? location))
  | target {redirection : Redirection} {file : File} (last : directed = some redirection)
      (leads : after.find redirection.target .entry = .ok (.file location file))
  | directory {redirection : Redirection} (last : directed = some redirection)
      (vacant : before.files.get? location = none)
      (made : after.files.get? location = some .directory)
      (leads : after.OnTheWay (Path.directoryPart redirection.target) location)

structure ChangedOnly (Unchanged : Location → Option Entry → Option Entry → Prop)
    (directed : Option Redirection) (before after : World) : Prop where
  owned : after.files.owned = before.files.owned
  denied : after.files.denied = before.files.denied
  entries : ∀ location, Touched Unchanged directed before after location

variable {logger : Log.Logger} {redirection : Redirection} {directed : Option Redirection}
  {before after : World} {location : Location}

theorem Touched.of_turned (last : directed = some redirection)
    (turned : Turned logger after (Path.directoryPart redirection.target) location
      (before.files.get? location) (after.files.get? location)) :
    Touched logger.Extends directed before after location := by
  generalize held : before.files.get? location = first at turned
  generalize stored : after.files.get? location = second at turned
  cases turned with
  | kept same => exact .kept (by rwa [held, stored])
  | made leads => exact .directory last held stored leads

namespace ChangedOnly

theorem of_kept (kept : before.files.Kept logger after.files) (directed : Option Redirection) :
    ChangedOnly logger.Extends directed before after :=
  ⟨kept.owned, kept.denied, fun location => .kept (kept.entries location)⟩

theorem of_made (last : directed = some redirection)
    (made : DirectoriesMade logger (Path.directoryPart redirection.target) before after) :
    ChangedOnly logger.Extends directed before after :=
  ⟨made.owned, made.denied, fun location => .of_turned last (made.entries location)⟩

theorem of_received {data : Bytes} {file : File} (last : directed = some redirection)
    (received : Receives logger redirection data before after location file) :
    ChangedOnly logger.Extends directed before after := by
  refine ⟨received.owned, received.denied, ?_⟩
  intro other
  by_cases same : other = location
  · subst same
    exact .target last received.found
  · exact .of_turned last (received.elsewhere other same)

/-- A file that is found by a path was there before with its bytes, records aside, unless the
target leads to it. -/
theorem of_found (changed : ChangedOnly logger.Extends directed before after) {path : String}
    {file : File} (found : after.find path .entry = .ok (.file location file))
    (other : ∀ last held, directed = some last →
      after.find last.target .entry ≠ .ok (.file location held)) :
    logger.Extends location (before.files.get? location) (some (.file file)) := by
  have stored := find_file found
  cases changed.entries location with
  | kept same => rwa [stored] at same
  | target last leads => exact absurd leads (other _ _ last)
  | directory last vacant made => cases stored.symm.trans made

end ChangedOnly

end World

namespace Builtin

variable {builtin : Builtin} {settings : Settings} {arguments : List String} {machine : Machine}

theorem name_of_ofName? {name : String} (known : ofName? name = some builtin) :
    builtin.name = name := by
  simpa using List.find?_some known

theorem name_ne_of_resolve {world : World} {name path : String} {resolution : Resolution}
    (resolved : world.resolve name path = resolution) (builtin : Builtin)
    (other : resolution ≠ .builtin builtin) : name ≠ builtin.name := by
  rintro rfl
  apply other
  rw [← resolved, World.resolve_eq_builtin]
  cases builtin <;> decide

theorem run_running (builtin : Builtin) (settings : Settings) (arguments : List String)
    (machine : Machine) : (builtin.run settings arguments machine).1.running =
      (machine.running && builtin != .exit) := by
  obtain ⟨turned, records, -, turns, ended⟩ := builtin.run_turns settings arguments machine
  rw [ended, (turned.emitAll_stays records).running, turns.running,
    (machine.emit_stays _).running]

theorem run_directory (other : builtin ≠ .cd) :
    (builtin.run settings arguments machine).1.world.directory = machine.world.directory := by
  obtain ⟨turned, records, -, turns, ended⟩ := builtin.run_turns settings arguments machine
  rw [ended, (turned.emitAll_stays records).directory, turns.directory other,
    (machine.emit_stays _).directory]

end Builtin

namespace Execution

variable {settings : Settings} {line first name : String} {arguments : List String}
  {redirection : Option Redirection} {command : CommandLine} {before after machine : Machine}

def Begins (settings : Settings) (line first : String) : Prop :=
  ∃ later command, tokenize line settings.config.quoteMode = .ok (first :: later) ∧
    CommandLine.ofWords (first :: later) = .ok command

/-- The redirection of a line, which is its last one. -/
def redirectionOf (settings : Settings) (line : String) : Option Redirection :=
  match commandOfLine settings line with
  | .ok command => command.redirection
  | .error _ => none

theorem begins_iff (read : commandOfLine settings line = .ok ⟨name :: arguments, redirection⟩) :
    Begins settings line first ↔ first = name := by
  obtain ⟨words, split, -, valid⟩ := (Reads.of_named read).exists_words
  have named := CommandLine.argv_of_words valid
  obtain ⟨later, rfl⟩ : ∃ later, words = name :: later := by
    cases words with
    | nil => cases named
    | cons word later =>
      rw [CommandLine.commandWords, List.takeWhile_cons] at named
      split at named
      · exact ⟨later, by rw [(List.cons_eq_cons.mp named).1]⟩
      · cases named
  constructor
  · rintro ⟨others, command, same, -⟩
    exact (List.cons_eq_cons.mp (Except.ok.inj (same.symm.trans split))).1
  · rintro rfl
    exact ⟨later, _, split, valid⟩

theorem attempt_running (settings : Settings) (command : CommandLine) (capture : Bool)
    (machine : Machine) : (attempt settings command capture machine).1.running =
      (machine.running && command.name != "exit") := by
  unfold attempt
  have told := (machine.emit_stays ((machine.world.resolve command.name settings.path).record
    command.name)).running
  cases resolved : machine.world.resolve command.name settings.path with
  | builtin builtin =>
    rw [resolved] at told
    have named := Builtin.name_of_ofName? (World.resolve_eq_builtin.mp resolved)
    have same : (builtin != .exit) = (command.name != "exit") := by
      rw [← named]
      cases builtin <;> decide
    rw [Builtin.run_running, told, same]
  | program path =>
    rw [resolved] at told
    have other : command.name ≠ "exit" := Builtin.name_ne_of_resolve resolved .exit (by simp)
    rw [(attemptProgram_stays _ _ _ _ _).running, told, bne_iff_ne.mpr other, Bool.and_true]
  | notFound missing =>
    rw [resolved] at told
    have other : command.name ≠ "exit" := Builtin.name_ne_of_resolve resolved .exit (by simp)
    rw [told, bne_iff_ne.mpr other, Bool.and_true]

theorem attempt_directory {capture : Bool} (other : command.name ≠ "cd") :
    (attempt settings command capture machine).1.world.directory = machine.world.directory := by
  unfold attempt
  have told := (machine.emit_stays ((machine.world.resolve command.name settings.path).record
    command.name)).directory
  cases resolved : machine.world.resolve command.name settings.path with
  | builtin builtin =>
    rw [resolved] at told
    have named := Builtin.name_of_ofName? (World.resolve_eq_builtin.mp resolved)
    have elsewhere : builtin ≠ .cd := by
      rintro rfl
      exact other named.symm
    exact (Builtin.run_directory elsewhere).trans told
  | program path =>
    rw [resolved] at told
    exact (attemptProgram_stays _ _ _ _ _).directory.trans told
  | notFound missing =>
    rw [resolved] at told
    exact told

/-- A line that returns has left the machine where its command has, or it has run none. -/
theorem Settles.moves {outcome : LineCase} {status : Int}
    (settles : Settles settings line before outcome status after) :
    (Stays before after ∧ ¬Begins settings line "exit") ∨
      ∃ name arguments redirection capture,
        commandOfLine settings line = .ok ⟨name :: arguments, redirection⟩ ∧
        Stays (attempt settings ⟨name :: arguments, redirection⟩ capture
          (afterReading settings line before)).1 after := by
  cases settles with
  | blank words wrote stays =>
    refine .inl ⟨stays, ?_⟩
    rintro ⟨later, command, same, -⟩
    cases words.symm.trans same
  | rejected invalid wrote stays =>
    refine .inl ⟨stays, ?_⟩
    rintro ⟨later, command, same, valid⟩
    rw [commandOfLine, same] at invalid
    cases invalid.symm.trans valid
  | operatorFirst words operator valid wrote stays =>
    refine .inl ⟨stays, ?_⟩
    rintro ⟨later, command, same, -⟩
    obtain ⟨rfl, -⟩ := List.cons_eq_cons.mp (Except.ok.inj (words.symm.trans same))
    exact absurd operator (by decide)
  | notFound read missing wrote stays =>
    refine .inl ⟨stays, ?_⟩
    intro begun
    obtain rfl := (begins_iff read).mp begun
    exact Builtin.name_ne_of_resolve missing .exit (by simp) rfl
  | cannotExecute read attempted wrote stays =>
    exact .inr ⟨_, _, _, false, read, by rwa [attempted]⟩
  | cannotExecuteRedirected read attempted wrote stays =>
    exact .inr ⟨_, _, _, true, read, by rwa [attempted]⟩
  | notWritten read attempted refused spoke made stays =>
    exact .inr ⟨_, _, _, true, read, by rwa [attempted]⟩
  | completed read attempted wrote stays =>
    exact .inr ⟨_, _, _, false, read, by rwa [attempted]⟩
  | completedRedirected read attempted written spoke received stays =>
    exact .inr ⟨_, _, _, true, read, by rwa [attempted]⟩

theorem running_of_returned {status : Int}
    (returned : (runOne settings line).on before = (.ok status, after)) :
    after.running = true ↔ before.running = true ∧ ¬Begins settings line "exit" := by
  obtain ⟨outcome, settles⟩ := settles_of_returned returned
  rcases settles.moves with ⟨stays, other⟩ | ⟨name, arguments, redirection, capture, read, stays⟩
  · simp [stays.running, other]
  · have told := ((Reads.of_named read).logged before).stays.running
    rw [stays.running, attempt_running, told, begins_iff read, Bool.and_eq_true, bne_iff_ne]
    exact and_congr_right fun _ => ne_comm

theorem directory_of_returned {status : Int}
    (returned : (runOne settings line).on before = (.ok status, after))
    (still : ¬Begins settings line "cd") : after.world.directory = before.world.directory := by
  obtain ⟨outcome, settles⟩ := settles_of_returned returned
  rcases settles.moves with ⟨stays, -⟩ | ⟨name, arguments, redirection, capture, read, stays⟩
  · exact stays.directory
  · have told := ((Reads.of_named read).logged before).stays.directory
    have other : CommandLine.name ⟨name :: arguments, redirection⟩ ≠ "cd" := by
      intro same
      exact still ((begins_iff read).mpr same.symm)
    exact stays.directory.trans ((attempt_directory other).trans told)

theorem changedOnly_of_returned {status : Int}
    (returned : (runOne settings line).on before = (.ok status, after)) :
    World.ChangedOnly before.logger.Extends (redirectionOf settings line) before.world
      after.world := by
  obtain ⟨outcome, settles⟩ := settles_of_returned returned
  cases settles with
  | blank words wrote => exact .of_kept wrote.files _
  | rejected invalid wrote => exact .of_kept wrote.files _
  | operatorFirst words operator valid wrote => exact .of_kept wrote.files _
  | notFound read missing wrote => exact .of_kept wrote.files _
  | cannotExecute read attempted wrote => exact .of_kept wrote.files _
  | cannotExecuteRedirected read attempted wrote => exact .of_kept wrote.files _
  | completed read attempted wrote => exact .of_kept wrote.files _
  | notWritten read attempted refused spoke made =>
    exact .of_made (by simp only [redirectionOf, read]) made
  | completedRedirected read attempted written spoke received =>
    exact .of_received (by simp only [redirectionOf, read]) received

end Execution

namespace Session

open Execution

/-- What a line leaves of a session. An earlier target of the line is neither made nor emptied,
unless the last one leads to the same file. -/
structure LeftBy (line : String) (before after : Session) : Prop where
  settings : after.settings = before.settings
  completion : after.completion = before.completion
  running : after.machine.running = true ↔
    before.machine.running = true ∧ ¬Begins before.settings line "exit"
  directory : after.machine.world.directory ≠ before.machine.world.directory →
    Begins before.settings line "cd"
  files : World.ChangedOnly before.machine.logger.Extends (redirectionOf before.settings line)
    before.machine.world after.machine.world
  earlier : ∀ words redirections,
    tokenize line before.settings.config.quoteMode = .ok words →
    CommandLine.redirections words = .ok redirections →
    ∀ redirection ∈ redirections.dropLast, ∀ location file,
      after.machine.world.find redirection.target .entry = .ok (.file location file) →
      (∀ last held, redirections.getLast? = some last →
        after.machine.world.find last.target .entry ≠ .ok (.file location held)) →
      before.machine.logger.Extends location (before.machine.world.files.get? location)
        (some (.file file))

/-- A line that returns leaves settings and completion alone. It ends the session only as an
`exit`, even one whose target is refused, and moves it only as a `cd`. -/
theorem line_changes_only {before after : Session} {line : String} {status : Int}
    (returned : before.perform (runOne before.settings line) = (.ok status, after)) :
    LeftBy line before after := by
  rw [perform_eq] at returned
  obtain ⟨ended, rfl⟩ := Prod.mk.inj returned
  have ran : (runOne before.settings line).on before.machine =
    (.ok status, ((runOne before.settings line).on before.machine).2) := Prod.ext ended rfl
  have changed := changedOnly_of_returned ran
  refine ⟨rfl, rfl, running_of_returned ran, ?_, changed, ?_⟩
  · intro moved
    by_contra still
    exact moved (directory_of_returned ran still)
  · intro words redirections split read redirection member location file found other
    apply changed.of_found found
    intro last held directed
    apply other last held
    rw [← directed, redirectionOf, commandOfLine, split]
    simp only [Except.bind, CommandLine.ofWords, read, Except.map]

def sessionWithLog : Session where
  settings := {}
  machine :=
    { world :=
        { files :=
            { owned := []
              entries := [((1, ["log"]), .file { content := {} }), ((1, ["bin"]), .directory)] }
          directory := .root }
      logger := { level := 30, handler := some ⟨.file (some ["log"]), 30⟩, propagates := false } }

/-- The target is looked for in the directory that the line has moved to. -/
theorem line_changes_only_moved : ∃ after,
    sessionWithLog.perform (runOne sessionWithLog.settings "cd bin > note") = (.ok 0, after) ∧
      LeftBy "cd bin > note" sessionWithLog after := by
  have read : commandOfLine sessionWithLog.settings "cd bin > note" =
    .ok ⟨["cd", "bin"], some ⟨.output, .overwrite, "note"⟩⟩ := rfl
  have executed : ((execute sessionWithLog.settings
      ⟨["cd", "bin"], some ⟨.output, .overwrite, "note"⟩⟩).on
    (afterReading sessionWithLog.settings "cd bin > note" sessionWithLog.machine)).1 = .ok 0 := rfl
  have ran := (Reads.of_named read).runOne (Prod.ext executed rfl)
  have returned := perform_eq sessionWithLog (runOne sessionWithLog.settings "cd bin > note")
  rw [ran] at returned
  exact ⟨_, returned, line_changes_only returned⟩

/-- A warning about the earlier target goes to the log file, which no target of the line leads
to. -/
theorem line_changes_log : ∃ after,
    sessionWithLog.perform (runOne sessionWithLog.settings "echo hi > a > b") = (.ok 0, after) ∧
      ¬World.ChangedOnly (fun _ first second => second = first)
        (redirectionOf sessionWithLog.settings "echo hi > a > b") sessionWithLog.machine.world
        after.machine.world := by
  have read : commandOfLine sessionWithLog.settings "echo hi > a > b" =
    .ok ⟨["echo", "hi"], some ⟨.output, .overwrite, "b"⟩⟩ := rfl
  have executed : ((execute sessionWithLog.settings
      ⟨["echo", "hi"], some ⟨.output, .overwrite, "b"⟩⟩).on
    (afterReading sessionWithLog.settings "echo hi > a > b" sessionWithLog.machine)).1 = .ok 0 := rfl
  have ran := (Reads.of_named read).runOne (Prod.ext executed rfl)
  have returned := perform_eq sessionWithLog (runOne sessionWithLog.settings "echo hi > a > b")
  rw [ran] at returned
  refine ⟨_, returned, ?_⟩
  intro changed
  cases changed.entries ["log"] with
  | kept same =>
    have counted := congrArg (fun entry => (Entry.asFile entry).content.pieces.length) same
    exact absurd counted (show ¬(1 = 0) by decide)
  | @target redirection file last leads =>
    have directed : some (⟨.output, .overwrite, "b"⟩ : Redirection) = some redirection := last
    obtain rfl := Option.some.inj directed
    have found := congrArg (Except.map Found.location?) leads
    exact absurd found (show ¬(Except.ok (some ["b"]) = Except.ok (some ["log"])) by decide)
  | directory last vacant => cases vacant

end Session

end CommandShell
