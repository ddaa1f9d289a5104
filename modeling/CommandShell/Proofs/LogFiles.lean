import CommandShell.Proofs.TargetWrites

/-! Opening log files. Directories are made on the way to a log file, then the file is opened where
its path leads once `..` is taken away by name. Files that are not opened stay as they are. -/

namespace CommandShell

def World.KeepsFiles (before after : World) : Prop :=
  ∀ location file, before.files.get? location = some (.file file) →
    after.files.get? location = some (.file file)

namespace World

variable {world before middle after : World} {path : String}

theorem KeepsFiles.refl (world : World) : world.KeepsFiles world := fun _ _ held => held

theorem KeepsFiles.trans (earlier : before.KeepsFiles middle) (later : middle.KeepsFiles after) :
    before.KeepsFiles after :=
  fun location file held => later location file (earlier location file held)

theorem makeDirectory_keeps (made : world.makeDirectory path = .ok after) : world.KeepsFiles after := by
  intro location file held
  have turned : Turned .silent after path location _ _ := (makeDirectory_made made).2.entries location
  rw [held] at turned
  cases turned with
  | kept same => exact same.eq (by simp [Log.Logger.openFile?, Log.Logger.silent])

end World

namespace Log

variable {related : World → World → Prop} (refl : ∀ world, related world world)
  (trans : ∀ {before middle after}, related before middle → related middle after → related before after)
  (step : ∀ {world path after}, world.makeDirectory path = .ok after → related world after)

include refl step in
theorem makeParent_preserves (world : World) (path : String) :
    related world (makeParent world path).1 := by
  unfold makeParent
  split
  · next made => exact step made
  · exact refl world
  · exact refl world

include refl trans step in
/-- What the making of one directory preserves is preserved by the making of many, wherever it stops. -/
theorem makeParents_preserves (root : String) (depth : Nat) (names : List String) (world : World) :
    related world (makeParents root depth names world).1 := by
  induction depth generalizing names with
  | zero => exact refl world
  | succ depth ih =>
    cases names with
    | nil => exact makeParent_preserves refl step world _
    | cons name outer =>
      unfold makeParents
      dsimp only
      split
      · next made => exact step made
      · split
        · have around := ih outer
          split
          · next made answered =>
            rw [answered] at around
            exact trans around (makeParent_preserves refl step made _)
          · next made fault answered =>
            rw [answered] at around
            exact around
        · exact refl world
      · exact refl world

/-- The path of a log file as seen from the root, with `..` taken away by name. -/
def fullPath (world : World) (path : String) : Except Fault String :=
  let names := (Path.ofText path).names.filter (· ≠ ".")
  let relative := Path.write (Path.root path) names
  let full : Except Fault String :=
    if (Path.ofText path).absolute then .ok relative
    else world.workingDirectory.map fun directory => Path.join directory relative
  full.map Path.normalize

/-- Whether a path leads to the file at a location when it is taken as that of a log file. -/
def LeadsTo (world : World) (path : String) (location : Location) : Prop :=
  ∃ full file, fullPath world path = .ok full ∧ world.find full .entry = .ok (.file location file)

include refl trans step in
/-- All that opening a log file can come to: directories are made first, and then the file is refused
or opened. -/
theorem openLog_cases (world : World) (path : String) :
    ∃ made, related world made ∧
      ((∃ fault, openLog world path = (made, .error fault)) ∨
        ∃ full opened location, fullPath made path = .ok full ∧
          made.openAndWrite full .append [] = .ok (opened, location) ∧
          openLog world path = (opened, .ok location)) := by
  have around := makeParents_preserves refl trans step (Path.root path) World.maxDirectories
    ((Path.ofText path).names.filter (· ≠ ".")).dropLast.reverse world
  unfold openLog
  dsimp only
  generalize makeParents (Path.root path) _ _ world = answer at around ⊢
  obtain ⟨made, fault | done⟩ := answer
  · exact ⟨made, around, .inl ⟨fault, rfl⟩⟩
  refine ⟨made, around, ?_⟩
  unfold fullPath
  dsimp only
  generalize (if (Path.ofText path).absolute = true then _ else _ : Except Fault String) = full
  cases full with
  | error fault => exact .inl ⟨fault, rfl⟩
  | ok full =>
    simp only [Except.bind, Except.map]
    cases opened : made.openAndWrite (Path.normalize full) .append [] with
    | error fault => exact .inl ⟨fault, rfl⟩
    | ok opening => exact .inr ⟨_, opening.1, opening.2, rfl, opened, rfl⟩

end Log

end CommandShell
