import CommandShell.Program
import CommandShell.Proofs.ActionRules
import CommandShell.Proofs.LogFiles
import CommandShell.Proofs.ParallelLines
import CommandShell.Proofs.RedirectedRuns

/-! Worlds that only grow. Whatever lines do, and however they end, all entries stay: files may get
other bytes, and new entries may come up, but nothing is taken away or turned into something else. -/

namespace CommandShell

structure World.Grown (before after : World) : Prop where
  owned : after.files.owned = before.files.owned
  denied : after.files.denied = before.files.denied
  entries : before.files.Extends after.files
  distinct : before.files.locations.Nodup → after.files.locations.Nodup

structure World.GrownInPlace (before after : World) : Prop extends World.Grown before after where
  directory : after.directory = before.directory

namespace World

variable {world before middle after : World} {path : String}

theorem Grown.refl (world : World) : world.Grown world := ⟨rfl, rfl, .refl _, id⟩

theorem Grown.trans (earlier : before.Grown middle) (later : middle.Grown after) :
    before.Grown after where
  owned := later.owned.trans earlier.owned
  denied := later.denied.trans earlier.denied
  entries := earlier.entries.trans later.entries
  distinct := later.distinct ∘ earlier.distinct

theorem GrownInPlace.refl (world : World) : world.GrownInPlace world := ⟨.refl world, rfl⟩

theorem GrownInPlace.trans (earlier : before.GrownInPlace middle) (later : middle.GrownInPlace after) :
    before.GrownInPlace after :=
  ⟨earlier.toGrown.trans later.toGrown, later.directory.trans earlier.directory⟩

/-- Where the working directory is makes no difference. -/
theorem Grown.of_files (same : after.files = before.files) : before.Grown after :=
  ⟨congrArg _ same, congrArg _ same, same ▸ .refl _, same ▸ id⟩

theorem grown_withEntry {location : Location} {entry : Entry}
    (free : world.files.get? location ≠ some .directory)
    (replaced : ∀ held, world.files.get? location = some held → held.Alike entry) :
    world.GrownInPlace (world.withEntry location entry) :=
  ⟨⟨rfl, rfl, FileSystem.extends_set replaced free, fun distinct => FileSystem.nodup_set distinct _ _⟩,
    rfl⟩

theorem grown_appendAt (world : World) (location : Location) (data : Bytes) :
    world.GrownInPlace (world.appendAt location data) := by
  unfold appendAt FileSystem.appendAt
  split
  · next file held =>
    apply grown_withEntry
    · simp [held]
    · intro entry stored
      cases held.symm.trans stored
      exact .file _ _
  · exact .refl world

theorem makeDirectory_grown (made : world.makeDirectory path = .ok after) : world.GrownInPlace after := by
  have answered := request_ok made
  split at answered
  · cases answered
  · cases answered
  · cases answered
  · cases answered
  next place name found =>
  obtain ⟨live, rfl⟩ := addEntry_ok answered
  have vacant := FileSystem.get?_eq_none_of_entryIn live
    (FileSystem.walk_grown (.refl world.files) found).1
  apply grown_withEntry <;> simp [vacant]

theorem openAndWrite_grown {mode : WriteMode} {data : Bytes} {location : Location}
    (opened : world.openAndWrite path mode data = .ok (after, location)) : world.GrownInPlace after := by
  obtain ⟨file, rfl, free, grown, -⟩ := openAndWrite_places opened
  exact ⟨⟨rfl, rfl, grown, fun distinct => FileSystem.nodup_set distinct _ _⟩, rfl⟩

theorem ensureDirectory_grown (world : World) (path : String) :
    world.GrownInPlace (world.ensureDirectory path).1 := by
  unfold ensureDirectory
  split
  · next made => exact makeDirectory_grown made
  · exact .refl world
  · exact .refl world

theorem ensureDirectoriesWithin_grown (depth : Nat) (world : World) (path : String) :
    world.GrownInPlace (ensureDirectoriesWithin depth world path).1 := by
  induction depth generalizing path with
  | zero => exact .refl world
  | succ depth ih =>
    rw [ensureDirectoriesWithin]
    generalize parentAndName path = parts
    obtain ⟨parent, name⟩ := parts
    dsimp only
    split
    · exact ensureDirectory_grown world path
    have outer := ih parent
    generalize ensureDirectoriesWithin depth world parent = answer at outer ⊢
    obtain ⟨made, result⟩ := answer
    have whole := outer.trans (ensureDirectory_grown made path)
    cases result with
    | ok answer =>
      dsimp only
      split
      · exact outer
      · exact whole
    | error fault =>
      dsimp only
      split
      · exact outer
      split
      · exact outer
      · exact whole

/-- A write that is refused may have made directories. -/
theorem writeTarget_grown (world : World) (redirection : Redirection) (data : Bytes) :
    world.GrownInPlace (world.writeTarget redirection data).1 := by
  have prepared : world.GrownInPlace (world.prepareTarget redirection.target).1 := by
    unfold prepareTarget
    dsimp only
    split
    · exact .refl world
    · exact ensureDirectoriesWithin_grown _ world _
  unfold writeTarget
  generalize world.prepareTarget redirection.target = answer at prepared ⊢
  obtain ⟨made, result⟩ := answer
  cases result with
  | error fault => exact prepared
  | ok done =>
    dsimp only [writeFile]
    cases opened : made.openAndWrite redirection.target redirection.mode data with
    | error fault => exact prepared
    | ok written => exact prepared.trans (openAndWrite_grown opened)

end World

namespace Log

open World

theorem openLog_grown (world : World) (path : String) : world.GrownInPlace (openLog world path).1 := by
  obtain ⟨made, around, ⟨fault, answered⟩ | ⟨full, opened, location, -, written, answered⟩⟩ :=
    openLog_cases GrownInPlace.refl GrownInPlace.trans makeDirectory_grown world path
  · rw [answered]
    exact around
  · rw [answered]
    exact around.trans (openAndWrite_grown written)

theorem setUp_grown (logger : Logger) (config : Config) (world : World) :
    world.GrownInPlace (setUp logger config world).2.1 := by
  unfold setUp
  dsimp only
  split
  · exact .refl world
  next path _ =>
  have opened := openLog_grown world path
  split
  · next answered =>
    rw [answered] at opened
    exact opened
  · next answered =>
    rw [answered] at opened
    exact opened

end Log

theorem Machine.grown_emit (machine : Machine) (record : Log.Record) :
    machine.world.GrownInPlace (machine.emit record).world := by
  unfold emit
  split
  · exact .refl _
  · exact .refl _
  · exact machine.world.grown_appendAt _ _

theorem Machine.grown_emitAll (machine : Machine) (records : List Log.Record) :
    machine.world.GrownInPlace (machine.emitAll records).world := by
  induction records generalizing machine with
  | nil => exact .refl _
  | cons record records ih => exact (machine.grown_emit record).trans (ih _)

namespace Builtin

theorem run_grown (builtin : Builtin) (settings : Settings) (arguments : List String)
    (machine : Machine) : machine.world.Grown (builtin.run settings arguments machine).1.world := by
  obtain ⟨turned, records, -, turns, ended⟩ := builtin.run_turns settings arguments machine
  have told := (machine.grown_emit (builtin.record arguments)).toGrown
  rw [ended]
  exact (told.trans (.of_files turns.files)).trans (turned.grown_emitAll records).toGrown

end Builtin

namespace Action

variable {α β : Type}

/-- Whether an action only makes the world grow, even where it ends with a fault. -/
def Grows (action : Action α) : Prop :=
  ∀ machine : Machine, machine.world.Grown (action.on machine).2.world

namespace Grows

theorem pure (value : α) : Grows (Pure.pure value) := fun _ => .refl _

theorem throw (fault : Fault) : Grows (MonadExcept.throw fault : Action α) := fun _ => .refl _

theorem get : Grows MonadState.get := fun _ => .refl _

theorem inspect (question : World → α) : Grows (Action.inspect question) := fun _ => .refl _

theorem log (record : Log.Record) : Grows (Action.log record) := fun machine =>
  (machine.grown_emit record).toGrown

theorem write (data : Bytes) : Grows (Action.write data) := fun _ => .refl _

theorem writeError (data : Bytes) : Grows (Action.writeError data) := fun _ => .refl _

theorem inherit (output errors : Bytes) : Grows (Action.inherit output errors) := fun _ => .refl _

theorem ofExcept (answer : Except Fault α) : Grows (Action.ofExcept answer) := by
  intro machine
  rw [on_ofExcept]
  exact .refl _

theorem bind {action : Action α} {next : α → Action β} (first : action.Grows)
    (later : ∀ value, (next value).Grows) : (action >>= next).Grows := by
  intro machine
  have grown := first machine
  rw [on_bind]
  rcases ran : action.on machine with ⟨fault | value, after⟩
  · rw [ran] at grown
    exact grown
  · rw [ran] at grown
    exact grown.trans (later value after)

theorem tryCatch {action : Action α} {handler : Fault → Action α} (first : action.Grows)
    (handled : ∀ fault, (handler fault).Grows) : (MonadExcept.tryCatch action handler).Grows := by
  intro machine
  have grown := first machine
  rw [on_tryCatch]
  rcases ran : action.on machine with ⟨fault | value, after⟩
  · rw [ran] at grown
    exact grown.trans (handled fault after)
  · rw [ran] at grown
    exact grown

end Grows

end Action

namespace Execution

open CommandShell.Action

variable (settings : Settings)

theorem runBuiltin_grows (builtin : Builtin) (arguments : List String) :
    (runBuiltin builtin settings arguments).Grows :=
  fun machine => builtin.run_grown settings arguments machine

theorem writeRedirected_grows (name : String) (redirection : Redirection) (data : Bytes) :
    (writeRedirected name redirection data).Grows := by
  intro machine
  have grown := (machine.world.writeTarget_grown redirection data).toGrown
  rw [writeRedirected_eq]
  generalize machine.world.writeTarget redirection data = answer at grown ⊢
  obtain ⟨world, fault | done⟩ := answer
  · exact grown
  · exact grown.trans (Machine.grown_emit { machine with world } _).toGrown

/-- Whatever a line does, nothing that was there is gone afterwards. -/
theorem grows_rules : Rules @Grows where
  pure := .pure
  throw := .throw
  bind := .bind
  tryCatch := .tryCatch
  inspect := .inspect
  log _ := .log _
  write := .write
  writeError := .writeError
  rememberStatus _ _ := .of_files rfl
  lastStatus := .bind .get fun _ => .pure _
  inherit := .inherit
  start _ _ _ := .bind .get fun _ => .ofExcept _
  runBuiltin builtin settings arguments := runBuiltin_grows settings builtin arguments
  writeRedirected := writeRedirected_grows

/-- The loop does what its lines do, one after another, up to its end or a fault. -/
theorem readAndRun_grows {ask : Action Unit} (asked : ask.Grows) (events : List InputEvent) :
    (readAndRun settings ask events).Grows := by
  induction events with
  | nil =>
    unfold readAndRun
    apply Grows.bind .get
    intro machine
    split
    · exact .pure _
    apply Grows.bind asked
    intro _
    exact .bind (.write _) fun _ => .pure _
  | cons event later ih =>
    unfold readAndRun
    apply Grows.bind .get
    intro machine
    split
    · exact .pure _
    apply Grows.bind asked
    intro _
    cases event with
    | endOfInput => exact .bind (.write _) fun _ => .pure _
    | interrupt =>
      apply Grows.bind (.write _)
      intro _
      exact .bind ih fun _ => .pure _
    | line text =>
      apply Grows.bind (grows_rules.runOne settings text)
      intro _
      exact .bind ih fun _ => .pure _

end Execution

end CommandShell
