import CommandShell.Execution
import CommandShell.Proofs.Lookups

/-! Starting a program while records are logged. A file that the logger has open cannot be
executed, so which program is started does not depend on how many records have gone there. -/

namespace CommandShell.Launch

variable {same : Location → File → File → Prop} {before after : World} {busy : Option Location}

/-- Whether files count as the same only where they are, aside from a file that is open for
writing. -/
def Confined (busy : Option Location) (same : Location → File → File → Prop) : Prop :=
  ∀ location first second, same location first second → second = first ∨ busy = some location

theorem programFile_corresponds (corresponds : before.Corresponds same after)
    (confined : Confined busy same) (programs : Programs) (environment : Environment)
    (path : String) :
    programFile ⟨programs, after, environment, busy⟩ path =
      programFile ⟨programs, before, environment, busy⟩ path := by
  have found := corresponds.find path .entry
  unfold programFile
  dsimp only
  generalize before.find path .entry = first at found ⊢
  generalize after.find path .entry = second at found ⊢
  cases found with
  | error cause => rfl
  | ok holds =>
    cases holds with
    | directory place => rfl
    | link place => rfl
    | vacant place name => rfl
    | file location executable holds =>
      dsimp only
      rcases confined _ _ _ holds with rfl | opened
      · rfl
      · simp only [executable, if_pos opened]

theorem missingIn_corresponds (corresponds : before.Corresponds same after) (directory : String) :
    missingIn after directory = missingIn before directory := by
  have found := corresponds.find directory .entry
  unfold missingIn
  generalize before.find directory .entry = first at found ⊢
  generalize after.find directory .entry = second at found ⊢
  cases found <;> rfl

theorem interpreterFile_corresponds (corresponds : before.Corresponds same after)
    (confined : Confined busy same) (programs : Programs) (environment : Environment)
    (name : Bytes) :
    interpreterFile ⟨programs, after, environment, busy⟩ name =
      interpreterFile ⟨programs, before, environment, busy⟩ name := by
  simp only [interpreterFile, programFile_corresponds corresponds confined,
    missingIn_corresponds corresponds]

theorem execute_corresponds (corresponds : before.Corresponds same after)
    (confined : Confined busy same) (programs : Programs) (environment : Environment)
    (interpreters : Nat) (path : Bytes) (argv : List Bytes) (file : File) :
    execute ⟨programs, after, environment, busy⟩ interpreters path argv file =
      execute ⟨programs, before, environment, busy⟩ interpreters path argv file := by
  induction interpreters generalizing path argv file with
  | zero =>
    unfold execute
    simp only [interpreterFile_corresponds corresponds confined]
  | succ interpreters ih =>
    unfold execute
    simp only [interpreterFile_corresponds corresponds confined, ih]

/-- What the open file holds does not change which program is started. -/
theorem load_corresponds (launch : Launch) (programs : Programs)
    (corresponds : before.Corresponds same after) (confined : Confined busy same) :
    launch.load programs after busy = launch.load programs before busy := by
  have attempts : attempt ⟨programs, after, launch.environment, busy⟩
        (launch.argv.map Bytes.ofText) =
      attempt ⟨programs, before, launch.environment, busy⟩ (launch.argv.map Bytes.ofText) := by
    funext path
    simp only [attempt, programFile_corresponds corresponds confined,
      execute_corresponds corresponds confined]
  simp only [load, attempts]

theorem load_of_refused {launch : Launch} {programs : Programs} {world : World} {captured : Bool}
    {fault : Fault} (refused : launch.start programs world busy captured = .error fault) :
    launch.load programs world busy = .error fault := by
  rw [start] at refused
  cases loaded : launch.load programs world busy with
  | error other =>
    rw [loaded] at refused
    cases refused
    rfl
  | ok program =>
    rw [loaded] at refused
    cases refused

theorem confined_appended (location : Location) (data : Bytes) :
    Confined (some location) (FileSystem.Appended location data) := by
  rintro place first second rfl
  by_cases same : place = location
  · exact .inr (congrArg some same.symm)
  · exact .inl (if_neg same)

/-- A record does not change which program is started. -/
theorem load_emit (launch : Launch) (programs : Programs) (machine : Machine)
    (record : Log.Record) :
    launch.load programs (machine.emit record).world (machine.emit record).logger.openFile? =
      launch.load programs machine.world machine.logger.openFile? := by
  rw [Machine.logger_emit]
  cases delivered : machine.logger.deliver record with
  | dropped => rw [Machine.emit_of_dropped delivered]
  | toConsole data => rw [Machine.emit_of_toConsole delivered]
  | toFile location data =>
    rw [Machine.emit_of_toFile delivered, (Log.Logger.deliver_toFile delivered).1]
    exact launch.load_corresponds programs (machine.world.corresponds_appendAt location data)
      (confined_appended location data)

theorem load_emitAll (launch : Launch) (programs : Programs) (machine : Machine)
    (records : List Log.Record) :
    launch.load programs (machine.emitAll records).world
        (machine.emitAll records).logger.openFile? =
      launch.load programs machine.world machine.logger.openFile? := by
  induction records generalizing machine with
  | nil => rfl
  | cons record records ih => exact (ih (machine.emit record)).trans (launch.load_emit _ _ _)

end CommandShell.Launch

namespace CommandShell.Execution

def Starts (settings : Settings) (command : CommandLine) (machine : Machine)
    (program : StartedProgram) : Prop :=
  ∃ path, machine.world.resolve command.name settings.path = .program path ∧
    (launchOf settings command path).load settings.programs machine.world
      machine.logger.openFile? = .ok program

variable {settings : Settings} {command : CommandLine} {before after : Machine}
  {program : StartedProgram}

theorem Starts.of_logged (starts : Starts settings command after program)
    (logged : before.Logged after) : Starts settings command before program := by
  obtain ⟨path, resolved, loaded⟩ := starts
  refine ⟨path, (logged.resolve _ _).symm.trans resolved, ?_⟩
  obtain ⟨records, rfl⟩ := logged
  rw [Launch.load_emitAll] at loaded
  exact loaded

end CommandShell.Execution
