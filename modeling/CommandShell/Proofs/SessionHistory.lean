import CommandShell.Proofs.GrowingWorlds
import CommandShell.Proofs.HistorySaves
import CommandShell.Proofs.ProgramLines

/-! The history of a session. It is loaded before the first line and saved after the last one,
however the lines end. It goes back to the file that it came from, as long as its path leads there:
the path is read again in the directory where the session has ended. -/

namespace CommandShell

namespace History

variable {world : World} {path : String}

inductive Readable (world : World) (path : String) : Prop where
  | held {data : Bytes} (read : world.readFile path = .ok data) : Readable world path
  | missing {given : Option String}
      (absent : world.readFile path = .error (.system ⟨.noSuchEntry, given⟩)) : Readable world path

/-- The lines that a history file holds, none where it is missing. -/
def linesAt (world : World) (path : String) : List Bytes :=
  match world.readFile path with
  | .ok data => parse data
  | .error _ => []

theorem isPlain_of_mem_linesAt {line : Bytes} (member : line ∈ linesAt world path) :
    IsPlain line := by
  unfold linesAt at member
  split at member
  · exact isPlain_of_mem_parse member
  · cases member

/-- Lines that have been saved are there again. -/
theorem linesAt_render {lines : List Bytes} (kept : ∀ line ∈ lines, IsKept line)
    (held : world.readFile path = .ok (render lines)) : linesAt world path = lines := by
  rw [linesAt, held]
  exact parse_render kept

theorem read_of_readFile {data : Bytes} (read : world.readFile path = .ok data) :
    History.read world path = .ok (parse data) := by
  obtain ⟨-, -, location, file, found, -⟩ := World.find_of_readFile read
  simp only [History.read, found, read]

/-- What is missing is neither a file nor a directory. -/
theorem find_of_absent {given : Option String} {found : Found}
    (absent : world.readFile path = .error (.system ⟨.noSuchEntry, given⟩))
    (reached : world.find path .entry = .ok found) :
    (∀ place, found ≠ .directory place) ∧ ∀ location file, found ≠ .file location file := by
  unfold World.readFile World.requestToOpen World.request at absent
  rw [reached] at absent
  split at absent
  · cases absent
  split at absent
  · cases absent
  cases found with
  | directory place => cases absent
  | file location file => cases absent
  | link location => exact ⟨nofun, nofun⟩
  | vacant place name => exact ⟨nofun, nofun⟩

theorem read_of_absent {given : Option String}
    (absent : world.readFile path = .error (.system ⟨.noSuchEntry, given⟩)) :
    History.read world path = .error (.system ⟨.noSuchEntry, none⟩) := by
  unfold History.read
  split
  · next place reached => exact absurd rfl ((find_of_absent absent reached).1 place)
  · rw [absent]

end History

namespace Program

open History

variable {call : ProgramCall} {settings : Settings} {config : Config} {machine : Machine}
  {path directory : String}

theorem loadHistory_readable (named : config.historyPath? = some path)
    (fits : History.fits config.historySize = true) (readable : Readable machine.world path) :
    (loadHistory call config).on machine = (.ok (linesAt machine.world path), machine) := by
  simp only [loadHistory, named, fits, Bool.not_true, Bool.false_eq_true, if_false, Action.on_bind,
    Action.on_inspect, id_eq]
  cases readable with
  | held read => simp only [read_of_readFile read, linesAt, read, Action.on_pure]
  | missing absent =>
    simp only [read_of_absent absent, linesAt, absent]
    rfl

theorem saveHistory_saved {lines : List Bytes} {saved : World}
    (named : config.historyPath? = some path)
    (saves : save machine.world path lines config.historySize = .ok saved) :
    (saveHistory call config lines).on machine = (.ok (), { machine with world := saved }) := by
  simp only [saveHistory, named, Action.on_bind, Action.on_inspect, id_eq, saves, Action.on_setWorld]

/-- A size that does not fit ends the program before anything of the history is read. -/
theorem interact_unfit (named : settings.config.historyPath? = some path)
    (unfit : History.fits settings.config.historySize = false) :
    (interact call settings).on machine = (.error .sizeRange, machine) := by
  have threw : (loadHistory call settings.config).on machine = (.error .sizeRange, machine) := by
    simp only [loadHistory, named, unfit, Bool.not_false, if_true, Action.on_bind, Action.on_throw]
  simp only [interact, Action.on_bind, threw]

theorem loop_grown (call : ProgramCall) (settings : Settings) (directory : String)
    (machine : Machine) : machine.world.Grown (loop call settings directory machine).2.world := by
  apply (machine.grown_emit _).toGrown.trans
  exact Execution.readAndRun_grows settings (.write _) _ _

/-- The status of a session has nothing to do with the lines, but a fault in one of them ends it. -/
theorem finish_loop {ended : Except Fault LoopEnd} {action : Action Int} {after : Machine}
    (completes : Bool) (ran : action.on machine = (ended.map LoopEnd.status, after)) :
    (finish machine completes action).machine = after ∧
    ((∃ loopEnd, ended = .ok loopEnd ∧ (finish machine completes action).ending = .status 0) ∨
      ∃ fault, ended = .error fault ∧ (finish machine completes action).ending = .fault fault) := by
  cases ended with
  | ok loopEnd =>
    rw [finish_returned ran]
    exact ⟨rfl, .inl ⟨loopEnd, rfl, rfl⟩⟩
  | error fault =>
    rw [finish_failed ran]
    exact ⟨rfl, .inr ⟨fault, rfl, rfl⟩⟩

/-- Whether lines have been saved to the file that a path led to at the start of a session, or would
have led to. It still leads there from the directory of the start. -/
structure SavedBack (path : String) (lines : List Bytes) (start before after : World)
    (location : Location) : Prop extends SavedAt path lines before after location where
  origin : ∃ file, after.files.walk start.directory path .entry = .ok (.file location file)
  same : ∀ place file, start.find path .entry = .ok (.file place file) → place = location

/-- A path that leads to the same from the directory of the start leads to the file that was there. -/
theorem savedBack_of_grown {start ended saved : World} {size : Int} (grown : start.Grown ended)
    (readable : Readable start path) (distinct : start.files.locations.Nodup)
    (saves : save ended path (linesAt start path) size = .ok saved)
    (allowed : ended.denies path = false) (direct : Direct ended path)
    (back : (Path.ofText path).absolute = true ∨ ended.directory = start.directory) :
    ∃ location, SavedBack path (lastOf size (linesAt start path)) start ended saved location := by
  have leads (files : FileSystem) (goal : WalkGoal) :
      files.walk ended.directory path goal = files.walk start.directory path goal := by
    rcases back with absolute | same
    · exact FileSystem.walk_absolute files absolute _ _ goal
    · rw [same]
  have still : ∀ place file, start.find path .entry = .ok (.file place file) →
      ∃ kept, ended.find path .entry = .ok (.file place kept) := by
    intro place file found
    obtain ⟨kept, -, reached⟩ := (FileSystem.walk_grown grown.entries found).2 (by decide)
    exact ⟨kept, (leads _ _).trans reached⟩
  have origin {lines : List Bytes} {location : Location}
      (savedAt : SavedAt path lines ended saved location) :
      ∃ file, saved.files.walk start.directory path .entry = .ok (.file location file) := by
    obtain ⟨last, reached, -⟩ := savedAt.found
    rw [World.find, savedAt.directory, leads] at reached
    exact ⟨last, reached⟩
  cases isFile : ended.isFile path with
  | true =>
    obtain ⟨-, location, file, found⟩ := World.find_of_isFile isFile
    have savedAt := save_existing direct isFile found (grown.distinct distinct) allowed
      (fun _ => isPlain_of_mem_linesAt) saves
    refine ⟨location, savedAt, origin savedAt, ?_⟩
    intro place held before
    obtain ⟨kept, reached⟩ := still place held before
    cases found.symm.trans reached
    rfl
  | false =>
    cases readable with
    | held read =>
      obtain ⟨whole, -, place, file, found, -⟩ := World.find_of_readFile read
      obtain ⟨kept, reached⟩ := still place file found
      simp [World.isFile, whole, reached] at isFile
    | missing absent =>
      have nothing : linesAt start path = [] := by rw [linesAt, absent]
      rw [nothing] at saves ⊢
      rw [lastOf_nil]
      obtain ⟨location, savedAt⟩ := save_vacant isFile saves
      refine ⟨location, savedAt, origin savedAt, ?_⟩
      intro place held before
      exact absurd rfl ((find_of_absent absent before).2 place held)

/-- The history of a session goes back to the file that it came from, however its lines end, if the
path is one from the root or the session ends in the directory where it started. The file then holds
the last ones of the lines that it held, and no other file has changed. Where no session can start,
nothing changes. -/
theorem run_saves_history (call : ProgramCall) (machine : Machine) (flags : Flags) (config : Config)
    (logger : Log.Logger) (opened : World) (path : String)
    (parsed : Options.parse call.arguments = .ok flags) (asked : flags.command = none)
    (loaded : flags.loadConfig call.environment = .ok config)
    (logging : Log.setUp machine.logger config machine.world = (logger, opened, .ok ()))
    (named : config.historyPath? = some path) (distinct : machine.world.files.locations.Nodup)
    (readable : Readable opened path) :
    opened.directory = machine.world.directory ∧
    (History.fits config.historySize = false →
      (run call machine).ending = .fault .sizeRange ∧ (run call machine).machine.world = opened) ∧
    (∀ fault, History.fits config.historySize = true → opened.workingDirectory = .error fault →
      (run call machine).ending = .fault fault ∧ (run call machine).machine.world = opened) ∧
    (∀ directory outcome ended saved, History.fits config.historySize = true →
      opened.workingDirectory = .ok directory →
      loop call (settingsFor call config) directory { machine with logger, world := opened } =
        (outcome, ended) →
      save ended.world path (linesAt opened path) config.historySize = .ok saved →
      ended.world.denies path = false → Direct ended.world path →
      ((Path.ofText path).absolute = true ∨ ended.world.directory = opened.directory) →
      (run call machine).machine = { ended with world := saved } ∧
      ((∃ loopEnd, outcome = .ok loopEnd ∧ (run call machine).ending = .status 0) ∨
        ∃ fault, outcome = .error fault ∧ (run call machine).ending = .fault fault) ∧
      ∃ location, SavedBack path (lastOf config.historySize (linesAt opened path)) opened ended.world
        saved location) ∧
    ∀ lines : List Bytes, (∀ line ∈ lines, IsKept line) → opened.readFile path = .ok (render lines) →
      linesAt opened path = lines := by
  have started : machine.world.GrownInPlace opened := by
    have grown := Log.setUp_grown machine.logger config machine.world
    rwa [logging] at grown
  have whole : run call machine = finish { machine with logger, world := opened } config.completion
      (interact call (settingsFor call config)) := by
    simp only [run, parsed]
    rw [runWith_loaded loaded, asked, runConfigured, logging]
  rw [whole]
  refine ⟨started.directory, ?_, ?_, ?_, fun lines plain held => linesAt_render plain held⟩
  · intro unfit
    rw [finish_failed (interact_unfit named unfit)]
    exact ⟨rfl, rfl⟩
  · intro fault fits removed
    rw [finish_failed (interact_removed (loadHistory_readable named fits readable) removed)]
    exact ⟨rfl, rfl⟩
  · intro directory outcome ended saved fits live looped saves allowed direct back
    have grown : opened.Grown ended.world := by
      have grown := loop_grown call (settingsFor call config) directory
        { machine with logger, world := opened }
      rwa [looped] at grown
    have ran := interact_looped (loadHistory_readable named fits readable) live looped
      (saveHistory_saved named saves)
    obtain ⟨machines, ending⟩ := finish_loop config.completion ran
    exact ⟨machines, ending,
      savedBack_of_grown grown readable (started.distinct distinct) saves allowed direct back⟩

def historyWorld : World :=
  { files :=
      { owned := []
        entries := [((1, ["hist"]), .file ⟨.ofBytes (render [[0x61], [0x62]]), false⟩),
          ((1, ["sub"]), .directory)] }
    directory := .root }

def leavingCall (path : String) : ProgramCall :=
  { arguments := ["--history-file=" ++ path], environment := [("PYSHELL_HISTSIZE", "1")],
    input := "cd sub\n" }

def leavingConfig (path : String) : Config := { historyFile := some path, historySize := 1 }

def leavingLoop (path : String) : Except Fault LoopEnd × Machine :=
  loop (leavingCall path) (settingsFor (leavingCall path) (leavingConfig path)) "/"
    { world := historyWorld, logger := unfiledLogger .silent (leavingConfig path) }

theorem run_saves_history_left :
    let ended := (leavingLoop "/hist").2.world
    ended.directory = ⟨["sub"], 0⟩ ∧
    ∃ location, SavedBack "/hist" (lastOf 1 (linesAt historyWorld "/hist")) historyWorld ended
      (run (leavingCall "/hist") { world := historyWorld }).machine.world location := by
  intro ended
  have written : (save ended "/hist" (linesAt historyWorld "/hist") 1).toOption.isSome = true := by
    decide +kernel
  have unlinked : ended.linkTarget? "/hist" = none := by decide +kernel
  cases saves : save ended "/hist" (linesAt historyWorld "/hist") 1 with
  | error fault =>
    rw [saves] at written
    cases written
  | ok saved =>
    have direct : Direct ended "/hist" := by
      intro target _ _ linked
      cases unlinked.symm.trans linked
    obtain ⟨-, -, -, closes, -⟩ := run_saves_history (leavingCall "/hist") { world := historyWorld }
      { historyFile := some (.text "/hist") } (leavingConfig "/hist")
      (unfiledLogger .silent (leavingConfig "/hist")) historyWorld "/hist" rfl rfl rfl rfl rfl
      (by decide) (.held rfl)
    obtain ⟨machines, -, kept⟩ := closes "/" (leavingLoop "/hist").1 (leavingLoop "/hist").2 saved rfl
      rfl (Prod.eta (leavingLoop "/hist")).symm saves (by decide +kernel) direct (.inl rfl)
    rw [machines]
    exact ⟨by decide +kernel, kept⟩

/-- A path that does not start at the root is read again in the directory where the session has
ended. The history goes to a new file there, and the file that it came from is not cut. -/
theorem run_saves_history_astray :
    let ended := (leavingLoop "hist").2.world
    let result := run (leavingCall "hist") { world := historyWorld }
    result.ending = .status 0 ∧ ended.files.get? ["hist", "sub"] = none ∧
    (result.machine.world.files.get? ["hist", "sub"]).isSome = true ∧
    ¬∃ location, SavedBack "hist" (lastOf 1 (linesAt historyWorld "hist")) historyWorld ended
      result.machine.world location := by
  intro ended result
  have missing : ended.files.get? ["hist", "sub"] = none := by decide +kernel
  have made : (result.machine.world.files.get? ["hist", "sub"]).isSome = true := by decide +kernel
  refine ⟨by decide +kernel, missing, made, ?_⟩
  rintro ⟨location, back⟩
  have there : location = ["hist"] := (back.same ["hist"] _ rfl).symm
  have apart : ["hist", "sub"] ≠ location := by
    rw [there]
    decide
  rw [back.elsewhere _ apart, missing] at made
  cases made

end Program

end CommandShell
