import CommandShell.Proofs.GrowingWorlds
import CommandShell.Proofs.RefusedTargets
import CommandShell.Proofs.TabPresses

/-! Writes to one target in a row. The file that the target leads to is the same for all of them.
It holds what has been written since the last write that overwrites, behind what it held before if
there is no such write. Nothing else changes except that directories are made on the way. -/

namespace CommandShell

structure TargetWrite where
  command : String
  stream : Stream
  mode : WriteMode
  data : Bytes
  deriving DecidableEq, Repr

namespace TargetWrite

def redirection (write : TargetWrite) (target : String) : Redirection :=
  ⟨write.stream, write.mode, target⟩

def overwrites (write : TargetWrite) : Bool := write.mode = .overwrite

/-- The last write that overwrites and all that follow it, or all writes if there is none. -/
def sinceOverwrite : List TargetWrite → List TargetWrite
  | [] => []
  | write :: later => if later.any overwrites then sinceOverwrite later else write :: later

def accumulated (former : Bytes) (writes : List TargetWrite) : Bytes :=
  (if writes.any overwrites then [] else former) ++ (sinceOverwrite writes).flatMap (·.data)

theorem sinceOverwrite_concat (writes : List TargetWrite) (last : TargetWrite) :
    sinceOverwrite (writes ++ [last]) =
      if last.overwrites then [last] else sinceOverwrite writes ++ [last] := by
  induction writes with
  | nil => simp [sinceOverwrite]
  | cons write later ih =>
    by_cases final : last.overwrites = true
    · simp [sinceOverwrite, ih, final]
    · by_cases further : later.any overwrites = true
      · simp [sinceOverwrite, ih, final, further]
      · simp [sinceOverwrite, final, further]

/-- One more write does to what the file held what it does to any file. -/
theorem accumulated_concat (former : Bytes) (writes : List TargetWrite) (last : TargetWrite) :
    accumulated former (writes ++ [last]) =
      last.mode.applied (accumulated former writes) last.data := by
  unfold accumulated
  rw [sinceOverwrite_concat]
  cases mode : last.mode <;> simp [overwrites, mode, WriteMode.applied]

def carryOut (target : String) (write : TargetWrite) : Action Unit :=
  writeRedirected write.command (write.redirection target) write.data

end TargetWrite

namespace Log.Logger

/-- Whether bytes are those that a file should hold, aside from log lines if it is the file that
they go to. -/
def Mixed (logger : Logger) (location : Location) (expected held : Bytes) : Prop :=
  held = expected ∨ logger.openFile? = some location ∧ logger.Inserted expected held

variable {logger : Logger} {location : Location} {expected held more : Bytes}

theorem Inserted.lines (inserted : logger.Inserted expected held) (records : List Record) :
    logger.Inserted expected (held ++ logger.lines records) := by
  induction records generalizing held with
  | nil => simpa [Logger.lines] using inserted
  | cons record later ih =>
    have divided : logger.lines (record :: later) = logger.lines [record] ++ logger.lines later := by
      simp [Logger.lines]
    rw [divided, ← List.append_assoc]
    exact ih (inserted.line record)

theorem Mixed.inserted (mixed : logger.Mixed location expected held) :
    logger.Inserted expected held := by
  rcases mixed with rfl | ⟨-, inserted⟩
  · exact .refl logger _
  · exact inserted

theorem Mixed.added (mixed : logger.Mixed location expected held)
    (added : logger.Added location more) : logger.Mixed location expected (held ++ more) := by
  rcases added with rfl | ⟨opened, records, rfl⟩
  · rwa [List.append_nil]
  · exact .inr ⟨opened, mixed.inserted.lines records⟩

theorem Mixed.applied (mixed : logger.Mixed location expected held) (mode : WriteMode)
    (data : Bytes) : logger.Mixed location (mode.applied expected data) (mode.applied held data) := by
  cases mode with
  | overwrite => exact .inl rfl
  | append =>
    rcases mixed with rfl | ⟨opened, inserted⟩
    · exact .inl rfl
    · exact .inr ⟨opened, inserted.data data⟩

end Log.Logger

namespace World

/-- What writes in a row have come to. The target leads to the file that has taken them, and nothing
else has changed, except that directories have been made on the way. -/
structure Accumulates (logger : Log.Logger) (target : String) (writes : List TargetWrite)
    (before after : World) (location : Location) (file : File) : Prop where
  directory : after.directory = before.directory
  owned : after.files.owned = before.files.owned
  denied : after.files.denied = before.files.denied
  kinds : before.files.Extends after.files
  found : after.find target .entry = .ok (.file location file)
  bytes : logger.Mixed location
    (TargetWrite.accumulated (before.files.fileAt location).bytes writes) file.bytes
  executable : file.executable = (before.files.fileAt location).executable
  elsewhere : ∀ other, other ≠ location →
    Turned logger after (Path.directoryPart target) other
      (before.files.get? other) (after.files.get? other)

variable {logger : Log.Logger} {target : String} {writes : List TargetWrite} {write : TargetWrite}
  {before middle after : World} {location place : Location} {file last : File}

theorem Holds.mixed {mode : WriteMode} {expected former data held : Bytes}
    (holds : Holds logger location mode former data held)
    (mixed : logger.Mixed location expected former) :
    logger.Mixed location (mode.applied expected data) held := by
  obtain ⟨earlier, later, first, second, rfl⟩ := holds
  exact ((mixed.added first).applied mode data).added second

theorem Receives.accumulates
    (received : Receives logger (write.redirection target) write.data before after location file)
    (grown : before.GrownInPlace after) :
    Accumulates logger target [write] before after location file where
  directory := grown.directory
  owned := received.owned
  denied := received.denied
  kinds := grown.entries
  found := received.found
  bytes := by
    rw [← List.nil_append [write], TargetWrite.accumulated_concat]
    exact received.bytes.mixed (.inl (List.append_nil _).symm)
  executable := received.executable
  elsewhere := received.elsewhere

/-- The next write goes to the same file, as the target still leads there. -/
theorem Accumulates.next (earlier : Accumulates logger target writes before middle location file)
    (received : Receives logger (write.redirection target) write.data middle after place last)
    (grown : middle.GrownInPlace after) :
    Accumulates logger target (writes ++ [write]) before after location last := by
  have held := find_file earlier.found
  obtain ⟨kept, -, reached⟩ := (FileSystem.walk_grown grown.entries earlier.found).2 (by decide)
  rw [← grown.directory] at reached
  obtain ⟨rfl, -⟩ : place = location ∧ last = kept := by
    simpa using received.found.symm.trans reached
  have bytes := received.bytes
  have executable := received.executable
  rw [FileSystem.fileAt_of_file held] at bytes executable
  exact {
    directory := grown.directory.trans earlier.directory
    owned := received.owned.trans earlier.owned
    denied := received.denied.trans earlier.denied
    kinds := earlier.kinds.trans grown.entries
    found := received.found
    bytes := by
      rw [TargetWrite.accumulated_concat]
      exact bytes.mixed earlier.bytes
    executable := executable.trans earlier.executable
    elsewhere := by
      intro other different
      apply (earlier.elsewhere other different).trans (received.elsewhere other different)
      intro leads
      exact leads.later grown.entries grown.directory }

end World

namespace TargetWrite

variable {target : String} {writes : List TargetWrite} {write : TargetWrite}
  {machine after : Machine}

theorem carryOut_receives (completed : (write.carryOut target).on machine = (.ok (), after)) :
    after.logger = machine.logger ∧ machine.world.GrownInPlace after.world ∧ ∃ location file,
      World.Receives machine.logger (write.redirection target) write.data machine.world after.world
        location file := by
  rw [carryOut, writeRedirected_eq] at completed
  have grown := machine.world.writeTarget_grown (write.redirection target) write.data
  rcases answered : machine.world.writeTarget (write.redirection target) write.data with
    ⟨world, fault | done⟩
  · rw [answered] at completed
    cases completed
  · have ended : (machine.world.writeTarget (write.redirection target) write.data).2 = .ok () :=
      congrArg Prod.snd answered
    obtain ⟨-, -, location, file, received⟩ := World.writeTarget_receives machine.logger ended
    rw [answered] at completed grown received
    obtain rfl := (Prod.mk.inj completed).2
    generalize (write.redirection target).record write.data = record
    have recorded := Machine.emit_wrote { machine with world } record
    have unmoved := Machine.emit_stays { machine with world } record
    obtain ⟨last, received⟩ := received.before_kept recorded.files unmoved.directory
    exact ⟨recorded.logger, grown.trans (Machine.grown_emit { machine with world } record), location,
      last, received⟩

/-- Writes in a row that all complete accumulate in one file. -/
theorem writes_accumulate (nonempty : writes ≠ [])
    (completed : (forM writes (carryOut target)).on machine = (.ok (), after)) :
    after.logger = machine.logger ∧ ∃ location file,
      World.Accumulates machine.logger target writes machine.world after.world location file := by
  -- From the last write backwards: the target of each but the first already leads to the file.
  induction writes using List.reverseRecOn generalizing after with
  | nil => exact absurd rfl nonempty
  | append_singleton earlier write ih =>
    rw [List.forM_append, Action.on_bind] at completed
    rcases ran : (forM earlier (carryOut target)).on machine with ⟨fault | done, middle⟩
    · rw [ran] at completed
      cases completed
    rw [ran] at completed
    have last : (write.carryOut target).on middle = (.ok (), after) := by
      simpa using completed
    obtain ⟨logger, grown, place, file, received⟩ := carryOut_receives last
    by_cases first : earlier = []
    · subst first
      cases ran
      exact ⟨logger, place, file, received.accumulates grown⟩
    · obtain ⟨same, location, former, accumulates⟩ := ih first ran
      rw [same] at received
      exact ⟨logger.trans same, location, file, accumulates.next received grown⟩

def machineWithWay : Machine :=
  { world :=
      { files :=
          { owned := []
            entries := [((1, ["way"]), .link "sub"), ((1, ["sub"]), .directory)] }
        directory := .root } }

def threeWrites : List TargetWrite :=
  [⟨"echo", .output, .append, [97]⟩, ⟨"cat", .error, .overwrite, [98]⟩, ⟨"echo", .output, .append, [99]⟩]

/-- A link leads to the directory in which another one is made, and the second write takes away
what the first one has written. -/
theorem writes_accumulate_beyond_link : threeWrites ≠ [] ∧ ∃ after file,
    (forM threeWrites (carryOut "way/new//note")).on machineWithWay = (.ok (), after) ∧
      World.Accumulates .silent "way/new//note" threeWrites machineWithWay.world after.world
        ["note", "new", "sub"] file ∧ file.bytes = [98, 99] := by
  have nonempty : threeWrites ≠ [] := by decide
  rcases ran : (forM threeWrites (carryOut "way/new//note")).on machineWithWay with ⟨answer, after⟩
  have completed : ((forM threeWrites (carryOut "way/new//note")).on machineWithWay).1 = .ok () := by
    decide +kernel
  have leads : ((forM threeWrites (carryOut "way/new//note")).on machineWithWay).2.world.find
      "way/new//note" .entry = .ok (.file ["note", "new", "sub"] ⟨⟨[[99], [98]]⟩, false⟩) := by
    decide +kernel
  rw [ran] at completed leads
  obtain rfl : answer = _ := completed
  obtain ⟨-, location, file, accumulates⟩ := writes_accumulate nonempty ran
  cases accumulates.found.symm.trans leads
  exact ⟨nonempty, after, _, rfl, accumulates, rfl⟩

/-- The file that debug records go to changes too. -/
theorem writes_accumulate_log : ∃ after,
    (forM [⟨"echo", .output, .overwrite, [104]⟩] (carryOut "note")).on
        Session.sessionWithDebugLog.machine = (.ok (), after) ∧
      ¬∃ location file, World.Accumulates .silent "note" [⟨"echo", .output, .overwrite, [104]⟩]
        Session.sessionWithDebugLog.machine.world after.world location file := by
  let write : TargetWrite := ⟨"echo", .output, .overwrite, [104]⟩
  rcases ran : (forM [write] (carryOut "note")).on Session.sessionWithDebugLog.machine with
    ⟨answer, after⟩
  have completed : ((forM [write] (carryOut "note")).on
      Session.sessionWithDebugLog.machine).1 = .ok () := by decide +kernel
  have leads : (((forM [write] (carryOut "note")).on
      Session.sessionWithDebugLog.machine).2.world.find "note" .entry).map Found.location? =
        .ok (some ["note"]) := by decide +kernel
  have logged : (Entry.asFile (((forM [write] (carryOut "note")).on
      Session.sessionWithDebugLog.machine).2.world.files.get? ["log"])).bytes ≠ [] := by decide +kernel
  rw [ran] at completed leads logged
  obtain rfl : answer = _ := completed
  refine ⟨after, rfl, ?_⟩
  rintro ⟨location, file, accumulates⟩
  rw [accumulates.found] at leads
  obtain rfl : location = ["note"] := by simpa [Except.map, Found.location?] using leads
  rcases (accumulates.elsewhere ["log"] (by decide)).unlogged with same | ⟨vacant, -⟩
  · rw [same] at logged
    exact logged rfl
  · cases vacant

end TargetWrite

end CommandShell
