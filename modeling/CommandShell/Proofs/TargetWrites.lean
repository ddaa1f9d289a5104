import CommandShell.Execution
import CommandShell.Proofs.DirectoriesMade

/-! Writing the target of a redirection. The file that the target leads to takes the bytes,
and nothing else changes except that directories are made on the way to it. Records that are
logged before or after do not matter. -/

namespace CommandShell

def WriteMode.applied (former data : Bytes) : WriteMode → Bytes
  | .overwrite => data
  | .append => former ++ data

def Log.Logger.Added (logger : Log.Logger) (location : Location) (data : Bytes) : Prop :=
  data = [] ∨ logger.openFile? = some location ∧ ∃ records, data = logger.lines records

namespace World

/-- The bytes of a file after a write, with records before and after them where the file is
the one they go to. -/
def Holds (logger : Log.Logger) (location : Location) (mode : WriteMode) (former data held : Bytes) :
    Prop :=
  ∃ earlier later, logger.Added location earlier ∧ logger.Added location later ∧
    held = mode.applied (former ++ earlier) data ++ later

/-- A file has taken bytes. It is the one that the target leads to. -/
structure Receives (logger : Log.Logger) (redirection : Redirection) (data : Bytes)
    (before after : World) (location : Location) (file : File) : Prop where
  owned : after.files.owned = before.files.owned
  denied : after.files.denied = before.files.denied
  found : after.find redirection.target .entry = .ok (.file location file)
  bytes : Holds logger location redirection.mode (before.files.fileAt location).bytes data file.bytes
  executable : file.executable = (before.files.fileAt location).executable
  elsewhere : ∀ other, other ≠ location →
    Turned logger after (Path.directoryPart redirection.target) other
      (before.files.get? other) (after.files.get? other)

end World

namespace Log.Logger

variable {logger : Logger} {location : Location} {first second : Bytes}

theorem Added.append (earlier : logger.Added location first) (later : logger.Added location second) :
    logger.Added location (first ++ second) := by
  rcases earlier with rfl | ⟨opened, records, rfl⟩
  · exact later
  rcases later with rfl | ⟨-, more, rfl⟩
  · exact .inr ⟨opened, records, List.append_nil _⟩
  · exact .inr ⟨opened, records ++ more, by simp [lines]⟩

end Log.Logger

namespace World

variable {logger : Log.Logger} {path : String} {location : Location}
  {before middle after world : World}

/-- A file stays a file while directories are made, with nothing but records added. -/
theorem Turned.asFile {first second : Option Entry}
    (turned : Turned logger after path location first second) :
    ∃ added, logger.Added location added ∧
      (Entry.asFile second).bytes = (Entry.asFile first).bytes ++ added ∧
      (Entry.asFile second).executable = (Entry.asFile first).executable := by
  cases turned with
  | made leads => exact ⟨[], .inl rfl, rfl, rfl⟩
  | kept same =>
    cases same with
    | same => exact ⟨[], .inl rfl, (List.append_nil _).symm, rfl⟩
    | recorded records opened executable added =>
      exact ⟨_, .inr ⟨opened, records, rfl⟩, added, executable⟩

theorem Holds.after_added {mode : WriteMode} {former data held added : Bytes}
    (holds : Holds logger location mode (former ++ added) data held)
    (more : logger.Added location added) : Holds logger location mode former data held := by
  obtain ⟨earlier, later, before, after, same⟩ := holds
  exact ⟨added ++ earlier, later, more.append before, after, by rw [same, List.append_assoc]⟩

theorem Holds.before_added {mode : WriteMode} {former data held added : Bytes}
    (holds : Holds logger location mode former data held) (more : logger.Added location added) :
    Holds logger location mode former data (held ++ added) := by
  obtain ⟨earlier, later, before, after, same⟩ := holds
  exact ⟨earlier, later ++ added, before, after.append more, by rw [same, List.append_assoc]⟩

variable {redirection : Redirection} {data : Bytes} {file : File}

/-- Directories may be made, and records logged, before the write. -/
theorem Receives.after_made
    (received : Receives logger redirection data middle after location file)
    (made : DirectoriesMade logger (Path.directoryPart redirection.target) before middle)
    (grown : middle.files.Extends after.files) (same : after.directory = middle.directory) :
    Receives logger redirection data before after location file where
  owned := received.owned.trans made.owned
  denied := received.denied.trans made.denied
  found := received.found
  bytes := by
    obtain ⟨added, more, bytes, -⟩ := (made.entries location).asFile
    have holds := received.bytes
    rw [FileSystem.fileAt, bytes] at holds
    exact holds.after_added more
  executable := by
    obtain ⟨-, -, -, executable⟩ := (made.entries location).asFile
    exact received.executable.trans executable
  elsewhere other different := by
    apply (made.entries other).trans (received.elsewhere other different)
    intro leads
    exact leads.later grown same

theorem find_file {goal : WalkGoal} (found : world.find path goal = .ok (.file location file)) :
    world.files.get? location = some (.file file) :=
  (FileSystem.walk_grown (.refl world.files) found).1

/-- Records may be logged after the write. -/
theorem Receives.before_kept
    (received : Receives logger redirection data before middle location file)
    (kept : middle.files.Kept logger after.files) (same : after.directory = middle.directory) :
    ∃ last, Receives logger redirection data before after location last := by
  have made : DirectoriesMade logger (Path.directoryPart redirection.target) middle after :=
    .of_kept kept
  have held := find_file received.found
  obtain ⟨last, stored, reached⟩ :=
    (FileSystem.walk_grown made.extends_files received.found).2 (by decide)
  obtain ⟨added, more, bytes, executable⟩ := (made.entries location).asFile
  rw [held, stored] at bytes executable
  refine ⟨last, ?_⟩
  exact {
    owned := kept.owned.trans received.owned
    denied := kept.denied.trans received.denied
    found := by rw [find, same]; exact reached
    bytes := by
      have holds := received.bytes.before_added more
      rwa [← show last.bytes = file.bytes ++ added from bytes] at holds
    executable := executable.trans received.executable
    elsewhere := by
      intro other different
      apply (received.elsewhere other different).trans (made.entries other)
      intro leads
      exact leads.later made.extends_files same }

theorem toBytes_written (mode : WriteMode) (former : Transcript) (data : Bytes) :
    (written mode former data).toBytes = mode.applied former.toBytes data := by
  cases mode with
  | overwrite => exact Transcript.toBytes_ofBytes data
  | append => exact Transcript.toBytes_add former data

theorem receives_withEntry (logger : Log.Logger)
    (found : (world.withEntry location (.file file)).find redirection.target .entry =
      .ok (.file location file))
    (bytes : file.bytes = redirection.mode.applied (world.files.fileAt location).bytes data)
    (executable : file.executable = (world.files.fileAt location).executable) :
    Receives logger redirection data world (world.withEntry location (.file file)) location file where
  owned := rfl
  denied := rfl
  found := found
  bytes := ⟨[], [], .inl rfl, .inl rfl, by rw [bytes, List.append_nil, List.append_nil]⟩
  executable := executable
  elsewhere other different := by
    rw [withEntry, FileSystem.get?_set_other _ different]
    exact .kept (.same _)

structure Places (path : String) (mode : WriteMode) (data : Bytes) (before after : World)
    (location : Location) (file : File) : Prop where
  world : after = before.withEntry location (.file file)
  free : before.files.get? location ≠ some .directory
  grown : before.files.Extends after.files
  found : after.find path .entry = .ok (.file location file)
  bytes : file.bytes = mode.applied (before.files.fileAt location).bytes data
  executable : file.executable = (before.files.fileAt location).executable

theorem openAndWrite_places {mode : WriteMode}
    (opened : world.openAndWrite path mode data = .ok (after, location)) :
    ∃ file, Places path mode data world after location file := by
  have answered := request_ok opened
  split at answered
  · cases answered
  split at answered
  · cases answered
  · cases answered
  · next place held found =>
    cases answered
    have stored := find_file found
    have free : world.files.get? location ≠ some .directory := by simp [stored]
    let file : File := { held with content := written mode held.content data }
    have grown : world.files.Extends (world.files.set location (.file file)) := by
      refine FileSystem.extends_set ?_ free
      intro entry holds
      cases holds.symm.trans stored
      exact .file held file
    obtain ⟨kept, holds, reached⟩ := (FileSystem.walk_grown grown found).2 (by decide)
    cases holds.symm.trans (FileSystem.get?_set_self world.files free _)
    refine ⟨file, rfl, free, grown, reached, ?_, ?_⟩
    · rw [FileSystem.fileAt_of_file stored]
      exact toBytes_written _ _ _
    · rw [FileSystem.fileAt_of_file stored]
  · cases answered
  · next place name found =>
    cases added : world.addEntry place name (.file ⟨.ofBytes data, false⟩) with
    | error cause =>
      rw [added] at answered
      cases answered
    | ok made =>
      rw [added] at answered
      cases answered
      obtain ⟨live, rfl⟩ := addEntry_ok added
      let file : File := ⟨.ofBytes data, false⟩
      have vacant : world.files.get? (name :: place.location) = none :=
        FileSystem.get?_eq_none_of_entryIn live (FileSystem.walk_grown (.refl world.files) found).1
      have free : world.files.get? (name :: place.location) ≠ some .directory := by simp [vacant]
      have grown : world.files.Extends (world.files.set (name :: place.location) (.file file)) :=
        FileSystem.extends_set (by simp [vacant]) free
      have stored := FileSystem.get?_set_self world.files free (.file file)
      have reached := (FileSystem.walk_grown grown found).2.2 file
        (FileSystem.entryIn_eq_some.mpr ⟨live, stored⟩) rfl
      refine ⟨file, rfl, free, grown, reached, ?_, ?_⟩
      · rw [FileSystem.fileAt, vacant]
        cases mode <;> exact Transcript.toBytes_ofBytes data
      · rw [FileSystem.fileAt, vacant]
        rfl

theorem openAndWrite_receives (logger : Log.Logger)
    (opened : world.openAndWrite redirection.target redirection.mode data = .ok (after, location)) :
    after.directory = world.directory ∧ world.files.Extends after.files ∧
      ∃ file, Receives logger redirection data world after location file := by
  obtain ⟨file, rfl, free, grown, found, bytes, executable⟩ := openAndWrite_places opened
  exact ⟨rfl, grown, file, receives_withEntry logger found bytes executable⟩

theorem prepareTarget_made (logger : Log.Logger) (world : World) (target : String) :
    (world.prepareTarget target).1.directory = world.directory ∧
      DirectoriesMade logger (Path.directoryPart target) world (world.prepareTarget target).1 := by
  unfold prepareTarget
  dsimp only
  split
  · exact ⟨rfl, .refl _ _ _⟩
  · exact ensureDirectories_made logger world _

/-- All that writing a target can come to: directories are made first, and then the write is
refused or done. -/
theorem writeTarget_cases (logger : Log.Logger) (world : World) (redirection : Redirection)
    (data : Bytes) :
    ∃ made, made.directory = world.directory ∧
      DirectoriesMade logger (Path.directoryPart redirection.target) world made ∧
      ((∃ fault, world.writeTarget redirection data = (made, .error fault)) ∨
        ∃ after location, made.openAndWrite redirection.target redirection.mode data =
          .ok (after, location) ∧ world.writeTarget redirection data = (after, .ok ())) := by
  obtain ⟨same, only⟩ := prepareTarget_made logger world redirection.target
  unfold writeTarget
  generalize world.prepareTarget redirection.target = prepared at same only ⊢
  obtain ⟨made, result⟩ := prepared
  refine ⟨made, same, only, ?_⟩
  cases result with
  | error fault => exact .inl ⟨fault, rfl⟩
  | ok done =>
    dsimp only [writeFile]
    cases made.openAndWrite redirection.target redirection.mode data with
    | error fault => exact .inl ⟨fault, rfl⟩
    | ok written => exact .inr ⟨written.1, written.2, rfl, rfl⟩

/-- A write that fails has made directories at most. -/
theorem writeTarget_refused (logger : Log.Logger) {fault : Fault}
    (refused : (world.writeTarget redirection data).2 = .error fault) :
    (world.writeTarget redirection data).1.directory = world.directory ∧
      DirectoriesMade logger (Path.directoryPart redirection.target) world
        (world.writeTarget redirection data).1 := by
  obtain ⟨made, same, only, ⟨other, answered⟩ | ⟨after, location, -, answered⟩⟩ :=
    writeTarget_cases logger world redirection data
  · rw [answered]
    exact ⟨same, only⟩
  · rw [answered] at refused
    cases refused

theorem writeTarget_receives (logger : Log.Logger)
    (written : (world.writeTarget redirection data).2 = .ok ()) :
    (world.writeTarget redirection data).1.directory = world.directory ∧
      world.files.Extends (world.writeTarget redirection data).1.files ∧ ∃ location file,
        Receives logger redirection data world (world.writeTarget redirection data).1 location
          file := by
  obtain ⟨made, same, only, ⟨fault, answered⟩ | ⟨after, location, opened, answered⟩⟩ :=
    writeTarget_cases logger world redirection data
  · rw [answered] at written
    cases written
  · obtain ⟨still, grown, file, received⟩ := openAndWrite_receives logger opened
    rw [answered]
    refine ⟨still.trans same, only.extends_files.trans grown, location, file, ?_⟩
    exact received.after_made only grown still

end World

end CommandShell
