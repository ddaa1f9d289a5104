import CommandShell.Proofs.Records
import CommandShell.Proofs.Walks

/-! Making the directories around a target. Only what is not there is made, and every new
directory lies where a leading part of the path leads, so nothing else is touched even when
the making stops halfway. -/

namespace CommandShell

namespace Path

theorem dropEndSlashes_leading (chars : List Char) : dropEndSlashes chars <+: chars := by
  unfold dropEndSlashes
  split
  · exact List.prefix_refl _
  · have suffix : chars.reverse.dropWhile (· = '/') <:+ chars.reverse := List.dropWhile_suffix _
    simpa using List.reverse_prefix.mpr suffix

theorem cut_leading (text : String) : (cut text).1.toList <+: text.toList := by
  have suffix : text.toList.reverse.dropWhile (· ≠ '/') <:+ text.toList.reverse :=
    List.dropWhile_suffix _
  have before := List.reverse_prefix.mpr suffix
  rw [List.reverse_reverse] at before
  simpa only [cut, String.toList_ofList] using (dropEndSlashes_leading _).trans before

end Path

namespace World

theorem parentAndName_leading (path : String) : (parentAndName path).1.toList <+: path.toList := by
  unfold parentAndName
  dsimp only
  split
  · exact (Path.cut_leading _).trans (Path.cut_leading path)
  · exact Path.cut_leading path

/-- Whether a directory lies where a leading part of a path leads. -/
def OnTheWay (world : World) (path : String) (location : Location) : Prop :=
  ∃ leading : String, leading.toList <+: path.toList ∧
    world.find leading .entry = .ok (.directory { location })

/-- What a location may come to while directories are made for a path: it stays as it was,
aside from records, or it becomes a new directory on the way. -/
inductive Turned (logger : Log.Logger) (after : World) (path : String) (location : Location) :
    Option Entry → Option Entry → Prop where
  | kept {first second : Option Entry} (same : logger.Extends location first second) :
    Turned logger after path location first second
  | made (leads : after.OnTheWay path location) :
    Turned logger after path location none (some .directory)

/-- Nothing but directories on the way of a path is new. -/
structure DirectoriesMade (logger : Log.Logger) (path : String) (before after : World) : Prop where
  owned : after.files.owned = before.files.owned
  denied : after.files.denied = before.files.denied
  entries : ∀ location,
    Turned logger after path location (before.files.get? location) (after.files.get? location)

variable {logger : Log.Logger} {path : String} {before middle after world : World}

theorem OnTheWay.longer {location : Location} {further : String}
    (leads : world.OnTheWay path location) (leading : path.toList <+: further.toList) :
    world.OnTheWay further location := by
  obtain ⟨part, start, found⟩ := leads
  exact ⟨part, start.trans leading, found⟩

theorem OnTheWay.later {location : Location} (leads : middle.OnTheWay path location)
    (grown : middle.files.Extends after.files) (same : after.directory = middle.directory) :
    after.OnTheWay path location := by
  obtain ⟨part, start, found⟩ := leads
  refine ⟨part, start, ?_⟩
  have reached := FileSystem.walk_grown grown found
  rw [← same] at reached
  exact reached

theorem Turned.trans {location : Location} {first second third : Option Entry}
    (earlier : Turned logger middle path location first second)
    (later : Turned logger after path location second third)
    (stays : middle.OnTheWay path location → after.OnTheWay path location) :
    Turned logger after path location first third := by
  cases earlier with
  | kept same =>
    cases later with
    | kept more => exact .kept (same.trans more)
    | made leads =>
      cases same
      exact .made leads
  | made leads =>
    cases later with
    | kept more =>
      cases more
      exact .made (stays leads)

theorem Turned.longer {location : Location} {first second : Option Entry} {further : String}
    (turned : Turned logger after path location first second)
    (leading : path.toList <+: further.toList) :
    Turned logger after further location first second := by
  cases turned with
  | kept same => exact .kept same
  | made leads => exact .made (leads.longer leading)

theorem Turned.alike {location : Location} {entry : Entry} {second : Option Entry}
    (turned : Turned logger after path location (some entry) second) :
    ∃ kept, second = some kept ∧ entry.Alike kept := by
  cases turned with
  | kept same =>
    cases same with
    | same => exact ⟨entry, rfl, .refl entry⟩
    | recorded records opened executable added => exact ⟨_, rfl, .file _ _⟩

namespace DirectoriesMade

theorem extends_files (made : DirectoriesMade logger path before after) :
    before.files.Extends after.files := by
  intro location entry held
  have turned := made.entries location
  rw [held] at turned
  exact turned.alike

theorem of_kept (kept : before.files.Kept logger after.files) :
    DirectoriesMade logger path before after where
  owned := kept.owned
  denied := kept.denied
  entries location := .kept (kept.entries location)

theorem refl (logger : Log.Logger) (path : String) (world : World) :
    DirectoriesMade logger path world world := .of_kept (.refl _)

theorem trans (earlier : DirectoriesMade logger path before middle)
    (later : DirectoriesMade logger path middle after) (same : after.directory = middle.directory) :
    DirectoriesMade logger path before after where
  owned := later.owned.trans earlier.owned
  denied := later.denied.trans earlier.denied
  entries location := by
    apply (earlier.entries location).trans (later.entries location)
    intro leads
    exact leads.later later.extends_files same

theorem longer {further : String} (made : DirectoriesMade logger path before after)
    (leading : path.toList <+: further.toList) : DirectoriesMade logger further before after where
  owned := made.owned
  denied := made.denied
  entries location := (made.entries location).longer leading

end DirectoriesMade

theorem request_ok {α : Type} {answer : Except SystemCause α} {value : α}
    (answered : request path answer = .ok value) : answer = .ok value := by
  unfold request at answered
  split at answered
  · cases answered
  · cases answer with
    | error cause => cases answered
    | ok given => exact congrArg Except.ok (Except.ok.inj answered)

theorem addEntry_ok {place : Place} {name : String} {entry : Entry}
    (added : world.addEntry place name entry = .ok after) :
    place.isLive = true ∧ after = world.withEntry (name :: place.location) entry := by
  unfold addEntry at added
  split at added
  · cases added
  next live =>
  split at added
  · cases added
  · exact ⟨by simpa using live, (Except.ok.inj added).symm⟩

theorem makeDirectory_made (made : world.makeDirectory path = .ok after) :
    after.directory = world.directory ∧ DirectoriesMade logger path world after := by
  have answered := request_ok made
  split at answered
  · cases answered
  · cases answered
  · cases answered
  · cases answered
  next place name found =>
  obtain ⟨live, rfl⟩ := addEntry_ok answered
  obtain ⟨location, lost⟩ := place
  obtain rfl : lost = 0 := by simpa [Place.isLive] using live
  have vacant : world.files.get? (name :: location) = none :=
    FileSystem.get?_eq_none_of_entryIn live (FileSystem.walk_grown (.refl world.files) found).1
  have free : world.files.get? (name :: location) ≠ some .directory := by simp [vacant]
  have stored := FileSystem.get?_set_self world.files free .directory
  have grown : world.files.Extends (world.files.set (name :: location) .directory) :=
    FileSystem.extends_set (by simp [vacant]) free
  have reached := (FileSystem.walk_grown grown found).2.1 (FileSystem.entryIn_eq_some.mpr ⟨live, stored⟩)
  refine ⟨rfl, rfl, rfl, ?_⟩
  intro other
  by_cases same : other = name :: location
  · subst same
    rw [vacant]
    refine (congrArg (Turned _ _ _ _ _) stored).mpr (.made ?_)
    exact ⟨path, List.prefix_refl _, reached⟩
  · rw [withEntry, FileSystem.get?_set_other _ same]
    exact .kept (.same _)

/-- The world after a request to make directories, whatever the answer is. -/
theorem ensureDirectory_made (logger : Log.Logger) (world : World) (path : String) :
    (world.ensureDirectory path).1.directory = world.directory ∧
      DirectoriesMade logger path world (world.ensureDirectory path).1 := by
  unfold ensureDirectory
  split
  · next made => exact makeDirectory_made made
  · exact ⟨rfl, .refl _ _ _⟩
  · exact ⟨rfl, .refl _ _ _⟩

theorem ensureDirectoriesWithin_made (logger : Log.Logger) (depth : Nat) (world : World)
    (path : String) :
    (ensureDirectoriesWithin depth world path).1.directory = world.directory ∧
      DirectoriesMade logger path world (ensureDirectoriesWithin depth world path).1 := by
  induction depth generalizing path with
  | zero => exact ⟨rfl, .refl _ _ _⟩
  | succ depth ih =>
    have leading := parentAndName_leading path
    rw [ensureDirectoriesWithin]
    generalize parentAndName path = parts at leading ⊢
    obtain ⟨parent, name⟩ := parts
    dsimp only at leading ⊢
    split
    · exact ensureDirectory_made logger world path
    · obtain ⟨still, outer⟩ := ih parent
      generalize ensureDirectoriesWithin depth world parent = answer at still outer ⊢
      obtain ⟨made, result⟩ := answer
      have around := outer.longer leading
      have whole : (made.ensureDirectory path).1.directory = world.directory ∧
          DirectoriesMade logger path world (made.ensureDirectory path).1 := by
        obtain ⟨same, inner⟩ := ensureDirectory_made logger made path
        exact ⟨same.trans still, around.trans inner same⟩
      cases result with
      | ok answer =>
        dsimp only
        split
        · exact ⟨still, around⟩
        · exact whole
      | error fault =>
        dsimp only
        split
        · exact ⟨still, around⟩
        split
        · exact ⟨still, around⟩
        · exact whole

theorem ensureDirectories_made (logger : Log.Logger) (world : World) (path : String) :
    (world.ensureDirectories path).1.directory = world.directory ∧
      DirectoriesMade logger path world (world.ensureDirectories path).1 := by
  rw [ensureDirectories]
  exact ensureDirectoriesWithin_made logger maxDirectories world path

end World

end CommandShell
