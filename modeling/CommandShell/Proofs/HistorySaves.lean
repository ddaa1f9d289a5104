import CommandShell.Proofs.HistoryText
import CommandShell.Proofs.LikeWorlds
import CommandShell.Proofs.TargetWrites

/-! Saving a history to its file. A file that is there is replaced, and replaced once more when it is
cut. In between, the trees have one shape, so what could be done the first time can be done again. -/

namespace CommandShell

namespace FileSystem

variable {files : FileSystem} {location : Location} {file : File}

theorem sameShape_set (held : files.get? location = some (.file file)) (other : File) :
    files.SameShape (files.set location (.file other)) := by
  intro place
  by_cases same : place = location
  · subst same
    rw [held, get?_set_self files (by simp [held])]
    exact .some (.file _ _)
  · rw [get?_set_other files same]
    cases files.get? place with
    | none => exact .none
    | some entry => exact .some (.refl entry)

theorem SameShape.trans {first second third : FileSystem} (earlier : first.SameShape second)
    (later : second.SameShape third) : first.SameShape third := by
  intro place
  have one := earlier place
  have two := later place
  generalize first.get? place = before at one ⊢
  generalize second.get? place = middle at one two
  generalize third.get? place = after at two ⊢
  cases one with
  | none => exact two
  | some alike =>
    cases two with
    | some follows => exact .some (alike.trans follows)

end FileSystem

namespace World

/-- Whether two worlds are of one shape: only what files hold, and whether they can be executed, may
be different. -/
structure SameShape (before after : World) : Prop where
  files : before.files.SameShape after.files
  count : after.files.entries.length = before.files.entries.length
  owned : after.files.owned = before.files.owned
  denied : after.files.denied = before.files.denied
  directory : after.directory = before.directory

variable {before after world : World} {path : String} {location : Location} {file : File}

theorem sameShape_withEntry (held : world.files.get? location = some (.file file))
    (distinct : world.files.locations.Nodup) (other : File) :
    world.SameShape (world.withEntry location (.file other)) where
  files := FileSystem.sameShape_set held other
  count := by
    have listed := (FileSystem.locations_set_of_file held distinct (.file other)).length_eq
    simp only [FileSystem.locations, List.length_map] at listed
    exact listed
  owned := rfl
  denied := rfl
  directory := rfl

namespace SameShape

theorem find (shape : before.SameShape after) (path : String) (goal : WalkGoal) :
    Answers (FileSystem.FoundAlike before.files after.files) (before.find path goal)
      (after.find path goal) := by
  unfold World.find
  rw [shape.directory]
  exact FileSystem.walk_sameShape shape.files _ path

theorem find_file (shape : before.SameShape after) {goal : WalkGoal}
    (found : before.find path goal = .ok (.file location file)) :
    ∃ kept, after.find path goal = .ok (.file location kept) := by
  have answers := shape.find path goal
  rw [found] at answers
  obtain ⟨other, reached, alike⟩ := answers.of_ok
  cases alike with
  | file held stored => exact ⟨_, reached⟩

theorem denies (shape : before.SameShape after) (path : String) :
    after.denies path = before.denies path := by
  simp only [World.denies, shape.denied, shape.directory, shape.files.resolve shape.count]

theorem linkTarget? (shape : before.SameShape after) (path : String) :
    after.linkTarget? path = before.linkTarget? path := by
  have answers := shape.find path .name
  unfold World.linkTarget?
  generalize before.find path .name = first at answers ⊢
  generalize after.find path .name = second at answers ⊢
  cases answers with
  | error cause => rfl
  | ok alike =>
    cases alike with
    | directory place => rfl
    | vacant place name => rfl
    | file held stored => rfl
    | link place =>
      have kept := shape.files place
      dsimp only
      generalize before.files.get? place = one at kept ⊢
      generalize after.files.get? place = other at kept ⊢
      cases kept with
      | none => rfl
      | some alike => cases alike <;> rfl

theorem addEntry (shape : before.SameShape after) {place : Place} {name : String} {entry : Entry}
    {made : World} (added : before.addEntry place name entry = .ok made) (other : Entry) :
    ∃ again, after.addEntry place name other = .ok again := by
  unfold World.addEntry FileSystem.isOwned at added ⊢
  rw [shape.owned]
  split at added
  · cases added
  next live =>
  rw [if_neg live]
  split at added
  · cases added
  next own =>
  rw [if_neg own]
  exact ⟨_, rfl⟩

/-- What can be written in one world can be written in another one of its shape. -/
theorem writeFile (shape : before.SameShape after) {mode : WriteMode} {data : Bytes} {written : World}
    (wrote : before.writeFile path mode data = .ok written) (other : Bytes) :
    ∃ again, after.writeFile path mode other = .ok again := by
  have answers := shape.find path .write
  unfold World.writeFile openAndWrite requestToOpen request at wrote ⊢
  rw [shape.denies]
  split at wrote
  · cases wrote
  next whole =>
  rw [if_neg whole]
  split at wrote
  · cases wrote
  next allowed =>
  rw [if_neg allowed]
  generalize before.find path .write = first at answers wrote
  generalize after.find path .write = second at answers ⊢
  cases answers with
  | error cause => cases wrote
  | ok alike =>
    cases alike with
    | directory place => cases wrote
    | link place => cases wrote
    | file held stored => exact ⟨_, rfl⟩
    | vacant place name =>
      dsimp only at wrote ⊢
      cases added : before.addEntry place name (.file ⟨.ofBytes data, false⟩) with
      | error cause =>
        rw [added] at wrote
        cases wrote
      | ok made =>
        obtain ⟨again, readded⟩ := shape.addEntry added (.file ⟨.ofBytes other, false⟩)
        rw [readded]
        exact ⟨_, rfl⟩

end SameShape

/-- A replacement puts a new file in the place of the one that the path names. -/
theorem replaceFile_ok {interim : String} {data : Bytes}
    (named : world.find path .name = .ok (.file location file))
    (replaced : world.replaceFile interim path data = .ok after) :
    (∃ written, world.writeFile interim .overwrite data = .ok written) ∧ hasNull path = false ∧
      after = world.withEntry location (.file ⟨.ofBytes data, false⟩) := by
  unfold replaceFile at replaced
  cases wrote : world.writeFile interim .overwrite data with
  | error fault =>
    rw [wrote] at replaced
    cases replaced
  | ok written =>
    rw [wrote] at replaced
    change request path _ = _ at replaced
    rw [named] at replaced
    unfold request at replaced
    split at replaced
    · cases replaced
    · next whole => exact ⟨⟨written, rfl⟩, by simpa using whole, (Except.ok.inj replaced).symm⟩

theorem replaceFile_of_written {interim : String} {data : Bytes} {written : World}
    (named : world.find path .name = .ok (.file location file)) (whole : hasNull path = false)
    (wrote : world.writeFile interim .overwrite data = .ok written) :
    world.replaceFile interim path data =
      .ok (world.withEntry location (.file ⟨.ofBytes data, false⟩)) := by
  unfold replaceFile
  rw [wrote]
  change request path _ = _
  rw [named, request, whole]
  rfl

/-- A file can be replaced once more. -/
theorem SameShape.replaceFile (shape : before.SameShape after) {interim : String} {data : Bytes}
    {replaced : World} (named : before.find path .name = .ok (.file location file))
    (first : before.replaceFile interim path data = .ok replaced) (other : Bytes) :
    after.replaceFile interim path other =
      .ok (after.withEntry location (.file ⟨.ofBytes other, false⟩)) := by
  obtain ⟨⟨written, wrote⟩, whole, -⟩ := replaceFile_ok named first
  obtain ⟨again, rewrote⟩ := shape.writeFile wrote other
  obtain ⟨kept, still⟩ := shape.find_file named
  exact replaceFile_of_written still whole rewrote

theorem readFile_eq (allowed : world.denies path = false) (whole : hasNull path = false)
    (found : world.find path .entry = .ok (.file location file)) :
    world.readFile path = .ok file.bytes := by
  simp only [readFile, requestToOpen, request, whole, allowed, found, Bool.false_eq_true, if_false]
  rfl

theorem find_of_readFile {data : Bytes} (read : world.readFile path = .ok data) :
    hasNull path = false ∧ world.denies path = false ∧
      ∃ location file, world.find path .entry = .ok (.file location file) ∧ file.bytes = data := by
  unfold readFile requestToOpen request at read
  split at read
  · cases read
  next whole =>
  split at read
  · cases read
  next allowed =>
  refine ⟨by simpa using whole, by simpa using allowed, ?_⟩
  split at read
  · cases read
  · cases read
  · next location file found => exact ⟨location, file, found, Except.ok.inj read⟩
  · cases read
  · cases read

theorem find_of_isFile (isFile : world.isFile path = true) :
    hasNull path = false ∧ ∃ location file, world.find path .entry = .ok (.file location file) := by
  unfold World.isFile at isFile
  obtain ⟨whole, found⟩ := Bool.and_eq_true_iff.mp isFile
  refine ⟨by simpa using whole, ?_⟩
  split at found
  · next location file reached => exact ⟨location, file, reached⟩
  · cases found

end World

namespace History

variable {world saved : World} {path : String} {location : Location} {file : File} {data : Bytes}
  {lines : List Bytes} {size : Int}

/-- Whether a path leads to the file that is replaced for it. A link is taken as what it spells, seen
from the working directory. -/
def Direct (world : World) (path : String) : Prop :=
  ∀ target location file, world.linkTarget? path = some target →
    world.find path .entry = .ok (.file location file) →
    world.find target .name = .ok (.file location file)

structure SavedAt (path : String) (lines : List Bytes) (before after : World) (location : Location) :
    Prop where
  found : ∃ file, after.find path .entry = .ok (.file location file) ∧ file.bytes = render lines
  elsewhere : ∀ other, other ≠ location → after.files.get? other = before.files.get? other
  owned : after.files.owned = before.files.owned
  denied : after.files.denied = before.files.denied
  directory : after.directory = before.directory

theorem find_replaced (direct : Direct world path)
    (found : world.find path .entry = .ok (.file location file)) :
    world.find ((world.linkTarget? path).getD path) .name = .ok (.file location file) := by
  cases linked : world.linkTarget? path with
  | some target => exact direct target location file linked found
  | none =>
    have named : FileSystem.Named world.files location file (world.find path .name) :=
      FileSystem.walk_named found
    unfold World.linkTarget? at linked
    rw [Option.getD_none]
    generalize world.find path .name = answer at named linked
    cases named with
    | file => rfl
    | link held =>
      dsimp only at linked
      rw [held] at linked
      cases linked

/-- What a replacement of a history file comes to. -/
theorem replace_ok (direct : Direct world path)
    (found : world.find path .entry = .ok (.file location file))
    (replaced : replace world path data = .ok saved) :
    saved = world.withEntry location (.file ⟨.ofBytes data, false⟩) :=
  (World.replaceFile_ok (find_replaced direct found) replaced).2.2

theorem replace_again {next : World} (direct : Direct world path)
    (found : world.find path .entry = .ok (.file location file))
    (replaced : replace world path data = .ok saved) (shape : world.SameShape next) (other : Bytes) :
    replace next path other = .ok (next.withEntry location (.file ⟨.ofBytes other, false⟩)) := by
  unfold replace at replaced ⊢
  rw [shape.linkTarget?]
  exact shape.replaceFile (find_replaced direct found) replaced other

/-- The file that has been replaced is found in its place. -/
theorem find_withEntry (found : world.find path .entry = .ok (.file location file))
    (distinct : world.files.locations.Nodup) (other : File) :
    (world.withEntry location (.file other)).find path .entry = .ok (.file location other) := by
  have held := World.find_file found
  obtain ⟨kept, reached⟩ := (World.sameShape_withEntry held distinct other).find_file found
  have stored := World.find_file reached
  have placed : (world.withEntry location (.file other)).files.get? location = some (.file other) :=
    FileSystem.get?_set_self world.files (by simp [held]) _
  cases stored.symm.trans placed
  exact reached

theorem savedAt_withEntry (found : world.find path .entry = .ok (.file location file))
    (distinct : world.files.locations.Nodup) (lines : List Bytes) :
    SavedAt path lines world (world.withEntry location (.file ⟨.ofBytes (render lines), false⟩))
      location where
  found := ⟨_, find_withEntry found distinct _, Transcript.toBytes_ofBytes _⟩
  elsewhere _ different := FileSystem.get?_set_other world.files different _
  owned := rfl
  denied := rfl
  directory := rfl

theorem SavedAt.trans {middle after : World} {others : List Bytes}
    (earlier : SavedAt path lines world middle location)
    (later : SavedAt path others middle after location) : SavedAt path others world after location where
  found := later.found
  elsewhere other different := (later.elsewhere other different).trans (earlier.elsewhere other different)
  owned := later.owned.trans earlier.owned
  denied := later.denied.trans earlier.denied
  directory := later.directory.trans earlier.directory

/-- A history file that is there and can be read holds the last lines after it has been saved. -/
theorem save_existing (direct : Direct world path) (isFile : world.isFile path = true)
    (found : world.find path .entry = .ok (.file location file))
    (distinct : world.files.locations.Nodup) (allowed : world.denies path = false)
    (plain : ∀ line ∈ lines, IsPlain line) (answered : save world path lines size = .ok saved) :
    SavedAt path (lastOf size lines) world saved location := by
  obtain ⟨whole, -⟩ := World.find_of_isFile isFile
  have held := World.find_file found
  unfold save write at answered
  rw [if_pos isFile] at answered
  cases replaced : replace world path (render lines) with
  | error fault =>
    rw [replaced] at answered
    cases fault <;> cases answered
  | ok written =>
    rw [replaced] at answered
    obtain rfl := Except.ok.inj answered
    have first := savedAt_withEntry found distinct lines
    have shape := World.sameShape_withEntry held distinct ⟨.ofBytes (render lines), false⟩
    have same := replace_ok direct found replaced
    rw [← same] at first shape
    split
    · next negative => rwa [lastOf_of_length_le (.inl negative)]
    next positive =>
    obtain ⟨kept, still, bytes⟩ := first.found
    have read : written.readFile path = .ok (render lines) := by
      rw [World.readFile_eq ((shape.denies path).trans allowed) whole still, bytes]
    have again := replace_again direct found replaced shape (render (lines.rtake size.toNat))
    by_cases more : size.toNat < lines.length
    · have apart : written.files.locations.Nodup := by
        rw [same]
        exact FileSystem.nodup_set distinct _ _
      have kept := first.trans (savedAt_withEntry still apart (lines.rtake size.toNat))
      simp only [shorten, read, lastLines?_render size.toNat plain, more, if_true, again, lastOf,
        positive, if_false]
      exact kept
    · simp only [shorten, read, lastLines?_render size.toNat plain, more, if_false,
        lastOf_of_length_le (.inr (Nat.not_lt.mp more))]
      exact first

/-- A history file that is made is empty, as there was nothing to be loaded from it. -/
theorem save_vacant (missing : world.isFile path = false)
    (answered : save world path [] size = .ok saved) : ∃ location, SavedAt path [] world saved location := by
  unfold save write at answered
  rw [missing] at answered
  simp only [Bool.false_eq_true, if_false, World.writeFile] at answered
  cases opened : world.openAndWrite path .overwrite (render []) with
  | error fault =>
    rw [opened] at answered
    cases fault <;> cases answered
  | ok result =>
    obtain ⟨written, location⟩ := result
    rw [opened] at answered
    obtain ⟨file, rfl, free, -, found, bytes, -⟩ := World.openAndWrite_places opened
    have whole : SavedAt path [] world (world.withEntry location (.file file)) location :=
      ⟨⟨file, found, bytes⟩, fun _ different => FileSystem.get?_set_other world.files different _,
        rfl, rfl, rfl⟩
    have uncut : ∀ count, shorten (world.withEntry location (.file file)) path count =
        world.withEntry location (.file file) := by
      intro count
      unfold shorten
      cases read : (world.withEntry location (.file file)).readFile path with
      | error fault => rfl
      | ok data =>
        obtain ⟨-, -, place, held, again, same⟩ := World.find_of_readFile read
        cases found.symm.trans again
        rw [← same, bytes]
        rfl
    have same := Except.ok.inj answered
    dsimp only at same
    rw [uncut, ite_self] at same
    exact ⟨location, same ▸ whole⟩

end History

end CommandShell
