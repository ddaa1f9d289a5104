import CommandShell.Execution
import CommandShell.Proofs.Lookups
import CommandShell.Proofs.ProgramStart

/-! Two worlds that are the same for all that is asked of them, aside from the content of some
files. Their tables may list the entries in different orders. Every request is answered alike by
both, and leaves worlds behind that are alike again. -/

namespace CommandShell

/-- What has to hold of files that count as the same, for them to do so after a write to both. -/
structure Lasting (same : Location → File → File → Prop) : Prop where
  refl : ∀ location file, same location file file
  add : ∀ location first second data, same location first second →
    same location (first.add data) (second.add data)

variable {same : Location → File → File → Prop}

theorem Entry.Corresponds.refl {same : File → File → Prop} (reflexive : ∀ file, same file file)
    (entry : Option Entry) : Entry.Corresponds same entry entry := by
  cases entry with
  | none => exact .vacant
  | some held =>
    cases held with
    | directory => exact .directory
    | file file => exact .file rfl (reflexive file)
    | link target => exact .link target

theorem Entry.Corresponds.mono {same other : File → File → Prop} {first second : Option Entry}
    (corresponds : Entry.Corresponds same first second)
    (implies : ∀ before after, same before after → other before after) :
    Entry.Corresponds other first second := by
  cases corresponds with
  | vacant => exact .vacant
  | directory => exact .directory
  | link target => exact .link target
  | file executable holds => exact .file executable (implies _ _ holds)

theorem Entry.Corresponds.eq {first second : Option Entry}
    (corresponds : Entry.Corresponds (fun before after => after = before) first second) :
    second = first := by
  cases corresponds with
  | file executable holds => rw [holds]
  | _ => rfl

namespace FileSystem

def locations (files : FileSystem) : List DeepLocation := files.entries.map (·.1)

/-- Whether two trees are the same, aside from the content of files and the order of their
tables. -/
structure Alike (same : Location → File → File → Prop) (before after : FileSystem) : Prop where
  owned : after.owned = before.owned
  denied : after.denied = before.denied
  listed : after.locations.Perm before.locations
  distinct : before.locations.Nodup
  corresponds : before.Corresponds same after

variable {before after : FileSystem} {location : Location}

theorem Alike.refl (lasting : Lasting same) (distinct : before.locations.Nodup) :
    before.Alike same before :=
  ⟨rfl, rfl, .refl _, distinct, fun location => .refl (lasting.refl location) _⟩

theorem locations_set (files : FileSystem) (location : Location) (entry : Entry) :
    (files.set location entry).locations =
      (location.length, location) :: files.locations.filter (· ≠ (location.length, location)) := by
  simp only [locations, set, List.map_cons, List.filter_map]
  rfl

theorem nodup_set {files : FileSystem} (distinct : files.locations.Nodup) (location : Location)
    (entry : Entry) : (files.set location entry).locations.Nodup := by
  rw [locations_set, List.nodup_cons]
  exact ⟨by simp, distinct.filter _⟩

theorem Alike.set (alike : before.Alike same after) {first second : Entry}
    (holds : Entry.Corresponds (same location) (some first) (some second)) :
    (before.set location first).Alike same (after.set location second) where
  owned := alike.owned
  denied := alike.denied
  listed := by
    rw [locations_set, locations_set]
    exact (alike.listed.filter _).cons _
  distinct := nodup_set alike.distinct _ _
  corresponds other := by
    by_cases elsewhere : other = location
    · subst elsewhere
      by_cases fixed : before.IsFixed other
      · have still : after.IsFixed other := by
          rw [IsFixed, alike.owned]
          exact fixed
        rw [get?_of_fixed (show (before.set other first).IsFixed other from fixed),
          get?_of_fixed (show (after.set other second).IsFixed other from still)]
        exact .directory
      · have free : ¬after.IsFixed other := by
          rw [IsFixed, alike.owned]
          exact fixed
        rw [get?_set_free _ fixed, get?_set_free _ free]
        exact holds
    · rw [get?_set_other _ elsewhere, get?_set_other _ elsewhere]
      exact alike.corresponds other

/-- Bytes that are put behind a file in both trees leave them alike. -/
theorem Alike.appendAt (alike : before.Alike same after) (lasting : Lasting same)
    (location : Location) (data : Bytes) :
    (before.appendAt location data).Alike same (after.appendAt location data) := by
  have held := alike.corresponds location
  unfold FileSystem.appendAt
  generalize before.get? location = first at held ⊢
  generalize after.get? location = second at held ⊢
  cases held with
  | vacant => exact alike
  | directory => exact alike
  | link target => exact alike
  | file executable holds => exact alike.set (.file executable (lasting.add _ _ _ data holds))

theorem mem_locations_of_file {files : FileSystem} {file : File}
    (held : files.get? location = some (.file file)) :
    (location.length, location) ∈ files.locations := by
  have free : ¬files.IsFixed location := by
    intro fixed
    rw [get?_of_fixed fixed] at held
    cases held
  rw [get?_of_not_fixed free] at held
  obtain ⟨earlier, later, divided, -⟩ := List.lookup_eq_some_iff.mp held
  rw [locations, divided, List.map_append]
  exact List.mem_append_right _ List.mem_cons_self

/-- An entry that takes the place of a file is no new one. -/
theorem locations_set_of_file {files : FileSystem} {file : File}
    (held : files.get? location = some (.file file)) (distinct : files.locations.Nodup)
    (entry : Entry) : (files.set location entry).locations.Perm files.locations := by
  have erased : files.locations.filter (· ≠ (location.length, location)) =
      files.locations.erase (location.length, location) := by
    rw [distinct.erase_eq_filter]
    apply List.filter_congr
    intro place member
    simp [bne, Bool.beq_eq_decide_eq]
  rw [locations_set, erased]
  exact (List.perm_cons_erase (mem_locations_of_file held)).symm

/-- Bytes may be put behind a file in one of the trees, if the file counts as the same then. -/
theorem Alike.appendAt_right (alike : before.Alike same after) {data : Bytes}
    (grows : ∀ first second, same location first second → same location first (second.add data)) :
    before.Alike same (after.appendAt location data) where
  owned := (after.owned_appendAt _ _).trans alike.owned
  denied := (after.denied_appendAt _ _).trans alike.denied
  distinct := alike.distinct
  listed := by
    refine List.Perm.trans ?_ alike.listed
    unfold FileSystem.appendAt
    split
    · next file held =>
      exact locations_set_of_file held (alike.listed.nodup_iff.mpr alike.distinct) _
    · exact .refl _
  corresponds other := by
    have held := alike.corresponds other
    rw [get?_appendAt]
    split
    · next here =>
      subst here
      generalize before.get? other = first at held ⊢
      generalize after.get? other = second at held ⊢
      cases held with
      | vacant => exact .vacant
      | directory => exact .directory
      | link target => exact .link target
      | file executable holds => exact .file executable (grows _ _ holds)
    · exact held

/-- The names in a directory follow from the locations alone. -/
theorem namesIn_eq (files : FileSystem) (location : Location) :
    files.namesIn location = files.locations.filterMap fun place =>
      if place.2.tail = location then place.2.head? else none := by
  rw [locations, List.filterMap_map, namesIn]
  congr 1
  funext entry
  obtain ⟨⟨depth, place⟩, held⟩ := entry
  cases place with
  | nil => simp
  | cons name directory => rfl

theorem Alike.namesIn (alike : before.Alike same after) (location : Location) :
    (after.namesIn location).Perm (before.namesIn location) := by
  rw [namesIn_eq, namesIn_eq]
  exact alike.listed.filterMap _

section Resolving

variable {start : Place} {follow : KnownLinks → Spelling → String → Resolved}

theorem SameShape.resolveNames (shape : before.SameShape after) (known : KnownLinks)
    (path : Spelling) (names : List String) :
    after.resolveNames start follow known path names =
      before.resolveNames start follow known path names := by
  induction names generalizing known path with
  | nil => rfl
  | cons name rest ih =>
    have held := shape.entryIn (path.place start) name
    simp only [FileSystem.resolveNames, ih]
    generalize before.entryIn (path.place start) name = first at held ⊢
    generalize after.entryIn (path.place start) name = second at held ⊢
    cases held with
    | none => rfl
    | some alike => cases alike <;> rfl

theorem SameShape.resolveWithin (shape : before.SameShape after) (depth : Nat) :
    after.resolveWithin start depth = before.resolveWithin start depth := by
  induction depth with
  | zero => rfl
  | succ depth ih =>
    funext known directory text
    simp only [FileSystem.resolveWithin, ih]
    exact shape.resolveNames _ _ _

/-- As many entries allow as many links inside one another. -/
theorem SameShape.resolve (shape : before.SameShape after)
    (count : after.entries.length = before.entries.length) (start : Place) (text : String) :
    after.resolve start text = before.resolve start text := by
  simp only [FileSystem.resolve, count, shape.resolveWithin]

theorem Alike.count (alike : before.Alike same after) :
    after.entries.length = before.entries.length := by
  have listed := alike.listed.length_eq
  simpa only [locations, List.length_map] using listed

end Resolving

end FileSystem

namespace World

structure Alike (same : Location → File → File → Prop) (before after : World) : Prop where
  files : before.files.Alike same after.files
  directory : after.directory = before.directory

variable {before after : World} {path : String}

theorem Answers.request {α : Type} {alike : α → α → Prop} {first second : Except SystemCause α}
    (answers : Answers alike first second) (path : String) :
    Answers alike (World.request path first) (World.request path second) := by
  unfold World.request
  split
  · exact .error _
  · cases answers with
    | ok holds => exact .ok holds
    | error cause => exact .error _

namespace Alike

theorem corresponds (alike : before.Alike same after) : before.Corresponds same after :=
  ⟨alike.files.corresponds, alike.directory⟩

theorem denies (alike : before.Alike same after) (path : String) :
    after.denies path = before.denies path := by
  simp only [World.denies, alike.files.denied, alike.directory,
    alike.files.corresponds.sameShape.resolve alike.files.count]

theorem requestToOpen {α : Type} {alike : α → α → Prop} {first second : Except SystemCause α}
    (worlds : before.Alike same after) (answers : Answers alike first second) (path : String) :
    Answers alike (before.requestToOpen path first) (after.requestToOpen path second) := by
  unfold World.requestToOpen
  rw [worlds.denies]
  apply Answers.request
  split
  · exact .error _
  · exact answers

theorem workingDirectory (alike : before.Alike same after) :
    after.workingDirectory = before.workingDirectory := by
  simp only [World.workingDirectory, alike.directory]

theorem appendAt (alike : before.Alike same after) (lasting : Lasting same) (location : Location)
    (data : Bytes) : (before.appendAt location data).Alike same (after.appendAt location data) :=
  ⟨alike.files.appendAt lasting location data, alike.directory⟩

end Alike

theorem Corresponds.isExecutableFile (corresponds : before.Corresponds same after) (path : String) :
    after.isExecutableFile path = before.isExecutableFile path := by
  have found := corresponds.find path .entry
  unfold World.isExecutableFile
  generalize before.find path .entry = first at found ⊢
  generalize after.find path .entry = second at found ⊢
  cases found with
  | error cause => rfl
  | ok holds =>
    cases holds with
    | file location executable holds => exact congrArg _ executable
    | _ => rfl

theorem Corresponds.isDirectory (corresponds : before.Corresponds same after) (path : String) :
    after.isDirectory path = before.isDirectory path := by
  have found := corresponds.find path .entry
  unfold World.isDirectory
  generalize before.find path .entry = first at found ⊢
  generalize after.find path .entry = second at found ⊢
  cases found with
  | error cause => rfl
  | ok holds => cases holds <;> rfl

theorem Corresponds.hasEntry (corresponds : before.Corresponds same after) (path : String) :
    after.hasEntry path = before.hasEntry path := by
  have found := corresponds.find path .entry
  unfold World.hasEntry
  generalize before.find path .entry = first at found ⊢
  generalize after.find path .entry = second at found ⊢
  cases found with
  | error cause => rfl
  | ok holds => cases holds <;> rfl

def ReadAlike (same : Location → File → File → Prop) (world : World) (path : String)
    (first second : Bytes) : Prop :=
  ∃ location one other, world.find path .entry = .ok (.file location one) ∧
    same location one other ∧ first = one.bytes ∧ second = other.bytes

namespace Alike

theorem readFile (alike : before.Alike same after) (path : String) :
    Answers (ReadAlike same before path) (before.readFile path) (after.readFile path) := by
  have found := alike.corresponds.find path .entry
  refine alike.requestToOpen ?_ path
  unfold ReadAlike
  generalize before.find path .entry = first at found ⊢
  generalize after.find path .entry = second at found ⊢
  cases found with
  | error cause => exact .error _
  | ok holds =>
    cases holds with
    | file location executable holds => exact .ok ⟨location, _, _, rfl, holds, rfl, rfl⟩
    | directory place => exact .error _
    | link location => exact .error _
    | vacant place name => exact .error _

theorem withEntry (alike : before.Alike same after) {location : Location} {first second : Entry}
    (holds : Entry.Corresponds (same location) (some first) (some second)) :
    (before.withEntry location first).Alike same (after.withEntry location second) :=
  ⟨alike.files.set holds, alike.directory⟩

theorem addEntry (alike : before.Alike same after) (lasting : Lasting same) (place : Place)
    (name : String) (entry : Entry) :
    Answers (World.Alike same) (before.addEntry place name entry)
      (after.addEntry place name entry) := by
  have owned : after.files.isOwned place.location = before.files.isOwned place.location := by
    rw [FileSystem.isOwned, FileSystem.isOwned, alike.files.owned]
  unfold World.addEntry
  rw [owned]
  split
  · exact .error _
  split
  · exact .error _
  · exact .ok (alike.withEntry (.refl (lasting.refl _) _))

theorem written (lasting : Lasting same) {location : Location} {first second : File}
    (holds : same location first second) (executable : second.executable = first.executable)
    (mode : WriteMode) (data : Bytes) :
    Entry.Corresponds (same location)
      (some (.file { first with content := World.written mode first.content data }))
      (some (.file { second with content := World.written mode second.content data })) := by
  refine .file executable ?_
  cases mode with
  | overwrite =>
    simp only [World.written, executable]
    exact lasting.refl _ _
  | append => exact lasting.add _ _ _ data holds

theorem openAndWrite (alike : before.Alike same after) (lasting : Lasting same) (path : String)
    (mode : WriteMode) (data : Bytes) :
    Answers (fun first second => first.1.Alike same second.1)
      (before.openAndWrite path mode data) (after.openAndWrite path mode data) := by
  have found := alike.corresponds.find path .write
  refine alike.requestToOpen ?_ path
  generalize before.find path .write = first at found ⊢
  generalize after.find path .write = second at found ⊢
  cases found with
  | error cause => exact .error _
  | ok holds =>
    cases holds with
    | file location executable holds =>
      exact .ok (alike.withEntry (written lasting holds executable mode data))
    | directory place => exact .error _
    | link location => exact .error _
    | vacant place name => exact (alike.addEntry lasting place name _).map _ _ fun _ _ made => made

theorem writeFile (alike : before.Alike same after) (lasting : Lasting same) (path : String)
    (mode : WriteMode) (data : Bytes) :
    Answers (World.Alike same) (before.writeFile path mode data) (after.writeFile path mode data) :=
  (alike.openAndWrite lasting path mode data).map _ _ fun _ _ wrote => wrote

theorem makeDirectory (alike : before.Alike same after) (lasting : Lasting same) (path : String) :
    Answers (World.Alike same) (before.makeDirectory path) (after.makeDirectory path) := by
  have found := alike.corresponds.find path .name
  refine Answers.request ?_ path
  generalize before.find path .name = first at found ⊢
  generalize after.find path .name = second at found ⊢
  cases found with
  | error cause => exact .error _
  | ok holds =>
    cases holds with
    | file location executable holds => exact .error _
    | directory place => exact .error _
    | link location => exact .error _
    | vacant place name => exact alike.addEntry lasting place name _

theorem changeDirectory (alike : before.Alike same after) (path : String) :
    Answers (World.Alike same) (before.changeDirectory path) (after.changeDirectory path) := by
  have found := alike.corresponds.find path .entry
  refine alike.requestToOpen ?_ path
  generalize before.find path .entry = first at found ⊢
  generalize after.find path .entry = second at found ⊢
  cases found with
  | error cause => exact .error _
  | ok holds =>
    cases holds with
    | file location executable holds => exact .error _
    | directory place => exact .ok ⟨alike.files, rfl⟩
    | link location => exact .error _
    | vacant place name => exact .error _

theorem listDirectory (alike : before.Alike same after) (path : String) :
    Answers (fun first second => second.Perm first) (before.listDirectory path)
      (after.listDirectory path) := by
  have found := alike.corresponds.find path .entry
  refine alike.requestToOpen ?_ path
  generalize before.find path .entry = first at found ⊢
  generalize after.find path .entry = second at found ⊢
  cases found with
  | error cause => exact .error _
  | ok holds =>
    cases holds with
    | file location executable holds => exact .error _
    | directory place =>
      refine .ok ?_
      split
      · exact alike.files.namesIn _
      · exact .refl _
    | link location => exact .error _
    | vacant place name => exact .error _

end Alike

/-- Whether two steps that may leave something behind when they fail end in the same way, in worlds
that are alike. -/
structure Ended (same : Location → File → File → Prop) (first second : World × Except Fault Unit) :
    Prop where
  alike : first.1.Alike same second.1
  result : second.2 = first.2

namespace Alike

theorem ensureDirectory (alike : before.Alike same after) (lasting : Lasting same)
    (path : String) : Ended same (before.ensureDirectory path) (after.ensureDirectory path) := by
  have made := alike.makeDirectory lasting path
  unfold World.ensureDirectory
  rw [alike.corresponds.isDirectory]
  generalize before.makeDirectory path = first at made ⊢
  generalize after.makeDirectory path = second at made ⊢
  cases made with
  | ok holds => exact ⟨holds, rfl⟩
  | error fault => cases fault <;> exact ⟨alike, rfl⟩

theorem ensureDirectoriesWithin (lasting : Lasting same) (depth : Nat)
    (alike : before.Alike same after) (path : String) :
    Ended same (before.ensureDirectoriesWithin depth path)
      (after.ensureDirectoriesWithin depth path) := by
  induction depth generalizing path with
  | zero => exact ⟨alike, rfl⟩
  | succ depth ih =>
    rcases named : World.parentAndName path with ⟨parent, name⟩
    simp only [World.ensureDirectoriesWithin, named, alike.corresponds.hasEntry]
    split
    · exact alike.ensureDirectory lasting path
    obtain ⟨made, result⟩ := ih parent
    rw [result]
    split
    · split
      · exact ⟨made, rfl⟩
      split
      · exact ⟨made, rfl⟩
      · exact made.ensureDirectory lasting path
    · split
      · exact ⟨made, rfl⟩
      · exact made.ensureDirectory lasting path

theorem prepareTarget (alike : before.Alike same after) (lasting : Lasting same)
    (target : String) : Ended same (before.prepareTarget target) (after.prepareTarget target) := by
  unfold World.prepareTarget
  dsimp only
  split
  · exact ⟨alike, rfl⟩
  · exact alike.ensureDirectoriesWithin lasting _ _

theorem writeTarget (alike : before.Alike same after) (lasting : Lasting same)
    (redirection : Redirection) (data : Bytes) :
    Ended same (before.writeTarget redirection data) (after.writeTarget redirection data) := by
  obtain ⟨made, result⟩ := alike.prepareTarget lasting redirection.target
  have wrote := made.writeFile lasting redirection.target redirection.mode data
  unfold World.writeTarget
  dsimp only
  rw [result]
  generalize before.prepareTarget redirection.target = first at made wrote ⊢
  generalize after.prepareTarget redirection.target = second at made wrote ⊢
  cases first.2 with
  | error fault => exact ⟨made, rfl⟩
  | ok done =>
    dsimp only
    generalize World.writeFile _ _ _ _ = first at wrote ⊢
    generalize World.writeFile _ _ _ _ = second at wrote ⊢
    cases wrote with
    | ok holds => exact ⟨holds, rfl⟩
    | error fault => exact ⟨made, rfl⟩

end Alike

end World

end CommandShell
