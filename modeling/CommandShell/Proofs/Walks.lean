import CommandShell.Proofs.Answers
import CommandShell.Proofs.Entries

/-! Walks along paths while a tree of files grows. A walk that has reached something reaches
it again after entries have been added or files have been written, and a walk that ended at a
free name ends at what is put there. -/

namespace CommandShell

/-- Whether two entries are of one kind. Files may hold different bytes. -/
inductive Entry.Alike : Entry → Entry → Prop where
  | directory : Alike .directory .directory
  | file (first second : File) : Alike (.file first) (.file second)
  | link (target : String) : Alike (.link target) (.link target)

theorem Entry.Alike.refl (entry : Entry) : entry.Alike entry := by
  cases entry with
  | directory => exact .directory
  | file file => exact .file file file
  | link target => exact .link target

theorem Entry.Alike.trans {first second third : Entry} (earlier : first.Alike second)
    (later : second.Alike third) : first.Alike third := by
  cases earlier <;> cases later <;> constructor

/-- Whether what there is at one location of two trees is the same, aside from the content of
files. -/
inductive Entry.Corresponds (same : File → File → Prop) : Option Entry → Option Entry → Prop where
  | vacant : Corresponds same none none
  | directory : Corresponds same (some .directory) (some .directory)
  | link (target : String) : Corresponds same (some (.link target)) (some (.link target))
  | file {first second : File} (executable : second.executable = first.executable)
      (holds : same first second) : Corresponds same (some (.file first)) (some (.file second))

inductive Found.Corresponds (same : Location → File → File → Prop) : Found → Found → Prop where
  | directory (place : Place) : Corresponds same (.directory place) (.directory place)
  | link (location : Location) : Corresponds same (.link location) (.link location)
  | vacant (place : Place) (name : String) : Corresponds same (.vacant place name) (.vacant place name)
  | file {first second : File} (location : Location) (executable : second.executable = first.executable)
      (holds : same location first second) :
      Corresponds same (.file location first) (.file location second)

namespace FileSystem

def Extends (before after : FileSystem) : Prop :=
  ∀ location entry, before.get? location = some entry →
    ∃ kept, after.get? location = some kept ∧ entry.Alike kept

theorem Extends.refl (files : FileSystem) : files.Extends files := by
  intro location entry held
  exact ⟨entry, held, .refl entry⟩

theorem Extends.trans {first second third : FileSystem} (earlier : first.Extends second)
    (later : second.Extends third) : first.Extends third := by
  intro location entry held
  obtain ⟨kept, stays, alike⟩ := earlier location entry held
  obtain ⟨last, remains, still⟩ := later location kept stays
  exact ⟨last, remains, alike.trans still⟩

theorem extends_set {files : FileSystem} {location : Location} {entry : Entry}
    (replaced : ∀ held, files.get? location = some held → held.Alike entry)
    (free : files.get? location ≠ some .directory) : files.Extends (files.set location entry) := by
  intro other held stored
  by_cases same : other = location
  · subst same
    exact ⟨entry, get?_set_self files free entry, replaced held stored⟩
  · exact ⟨held, (get?_set_other files same entry).trans stored, .refl held⟩

theorem entryIn_eq_some {files : FileSystem} {place : Place} {name : String} {entry : Entry} :
    files.entryIn place name = some entry ↔
      place.isLive = true ∧ files.get? (name :: place.location) = some entry := by
  unfold entryIn
  by_cases live : place.isLive = true <;> simp [live]

theorem get?_eq_none_of_entryIn {files : FileSystem} {place : Place} {name : String}
    (live : place.isLive = true) (free : files.entryIn place name = none) :
    files.get? (name :: place.location) = none := by
  rwa [entryIn, if_pos live] at free

theorem Extends.entryIn {before after : FileSystem} (grown : before.Extends after) {place : Place}
    {name : String} {entry : Entry} (held : before.entryIn place name = some entry) :
    ∃ kept, after.entryIn place name = some kept ∧ entry.Alike kept := by
  obtain ⟨live, stored⟩ := entryIn_eq_some.mp held
  obtain ⟨kept, stays, alike⟩ := grown _ _ stored
  exact ⟨kept, entryIn_eq_some.mpr ⟨live, stays⟩, alike⟩

/-- What a walk has found in a tree, and what a walk to the end of the path comes to after the
tree has grown. A name that was free leads to the directory or file that has been put there. -/
def Reaches (goal : WalkGoal) (before after : FileSystem) :
    Found → Except SystemCause Found → Prop
  | .directory place, result => result = .ok (.directory place)
  | .file location held, result => before.get? location = some (.file held) ∧ (goal ≠ .name →
    ∃ kept, after.get? location = some (.file kept) ∧ result = .ok (.file location kept))
  | .link _, _ => True
  | .vacant place name, result => before.entryIn place name = none ∧
    (after.entryIn place name = some .directory → result = .ok (.directory (place.inner name))) ∧
    ∀ file, after.entryIn place name = some (.file file) → goal = .write →
      result = .ok (.file (name :: place.location) file)

variable {before after : FileSystem} {goal : WalkGoal}
  {jump later : Bool → Place → List String → Except SystemCause Found}

theorem atFile_grown {slash : Bool} {location : Location} {first second : File} {found : Found}
    (held : before.get? location = some (.file first))
    (stored : after.get? location = some (.file second)) (bare : goal = .write → slash = false)
    (ended : atFile goal slash location first = .ok found) :
    Reaches goal before after found (atFile .entry slash location second) := by
  unfold atFile at ended
  split at ended
  · cases ended
  next allowed =>
  obtain rfl := Except.ok.inj ended
  refine ⟨held, ?_⟩
  intro opens
  have unslashed : slash = false := by
    cases goal with
    | entry => simpa using allowed
    | write => exact bare rfl
    | name => exact absurd rfl opens
  exact ⟨second, stored, by simp [atFile, unslashed]⟩

theorem walkUntilLink_grown (grown : before.Extends after)
    (followed : ∀ slash place names found, jump slash place names = .ok found →
      Reaches goal before after found (later slash place names))
    {slash : Bool} {place : Place} {names : List String} {found : Found}
    (walked : before.walkUntilLink goal jump slash place names = .ok found) :
    Reaches goal before after found (after.walkUntilLink .entry later slash place names) := by
  induction names generalizing place with
  | nil =>
    obtain rfl := Except.ok.inj walked
    rfl
  | cons name rest ih =>
    by_cases dot : name = "."
    · simp only [walkUntilLink, dot, if_true] at walked ⊢
      exact ih walked
    by_cases dots : name = ".."
    · subst dots
      exact ih walked
    by_cases refused : (rest.isEmpty && slash && goal = .write) = true
    · simp [walkUntilLink, dot, dots, refused] at walked
    by_cases long : (place.isLive && maxNameLength < byteLength name) = true
    · simp [walkUntilLink, dot, dots, refused, long] at walked
    have unrefused : (rest.isEmpty && slash && decide (WalkGoal.entry = .write)) = false := by simp
    simp only [walkUntilLink, dot, dots, refused, unrefused, long, if_false, Bool.false_eq_true]
      at walked ⊢
    cases held : before.entryIn place name with
    | none =>
      simp only [held] at walked
      split at walked
      · next last =>
        obtain rfl := Except.ok.inj walked
        obtain rfl := List.isEmpty_iff.mp last
        refine ⟨held, ?_, ?_⟩
        · intro made
          simp only [made]
          rfl
        · intro file made writing
          have bare : slash = false := by simpa [writing] using refused
          simp [made, atFile, bare]
      · cases walked
    | some entry =>
      obtain ⟨kept, stays, alike⟩ := grown.entryIn held
      simp only [held] at walked
      simp only [stays]
      cases alike with
      | directory => exact ih walked
      | file first second =>
        dsimp only at walked ⊢
        split at walked
        · next last =>
          rw [if_pos last]
          have bare : goal = .write → slash = false := by
            intro writing
            simpa [writing, List.isEmpty_iff.mp last] using refused
          exact atFile_grown (entryIn_eq_some.mp held).2 (entryIn_eq_some.mp stays).2 bare walked
        · cases walked
      | link target =>
        dsimp only at walked ⊢
        split at walked
        · next inner => rw [if_pos inner]; exact followed _ _ _ _ walked
        · next last =>
          rw [if_neg last]
          split at walked
          · obtain rfl := Except.ok.inj walked
            trivial
          · simp only [reduceCtorEq, if_false]
            exact followed _ _ _ _ walked

theorem walkWithin_grown (grown : before.Extends after) (budget : Nat) {slash : Bool}
    {place : Place} {names : List String} {found : Found}
    (walked : before.walkWithin goal budget slash place names = .ok found) :
    Reaches goal before after found (after.walkWithin .entry budget slash place names) := by
  induction budget generalizing slash place names found with
  | zero =>
    refine walkUntilLink_grown grown ?_ walked
    intro slash place names found jumped
    cases jumped
  | succ budget ih =>
    refine walkUntilLink_grown grown ?_ walked
    intro slash place names found jumped
    exact ih jumped

theorem walk_grown (grown : before.Extends after) {start : Place} {text : String} {found : Found}
    (walked : before.walk start text goal = .ok found) :
    Reaches goal before after found (after.walk start text .entry) := by
  unfold walk at walked ⊢
  split at walked
  · cases walked
  next filled =>
  rw [if_neg filled]
  split at walked
  · cases walked
  next short =>
  rw [if_neg short]
  exact walkWithin_grown grown maxLinks walked

/-- Whether two trees hold the same at every location, aside from the content of files. `same` says
which files count as the same at a location. -/
def Corresponds (same : Location → File → File → Prop) (before after : FileSystem) : Prop :=
  ∀ location, Entry.Corresponds (same location) (before.get? location) (after.get? location)

def SameShape (before after : FileSystem) : Prop :=
  ∀ location, Option.Rel Entry.Alike (before.get? location) (after.get? location)

inductive FoundAlike (before after : FileSystem) : Found → Found → Prop where
  | directory (place : Place) : FoundAlike before after (.directory place) (.directory place)
  | link (location : Location) : FoundAlike before after (.link location) (.link location)
  | vacant (place : Place) (name : String) :
      FoundAlike before after (.vacant place name) (.vacant place name)
  | file {first second : File} {location : Location}
      (held : before.get? location = some (.file first))
      (stored : after.get? location = some (.file second)) :
      FoundAlike before after (.file location first) (.file location second)

theorem SameShape.entryIn (shape : before.SameShape after) (place : Place) (name : String) :
    Option.Rel Entry.Alike (before.entryIn place name) (after.entryIn place name) := by
  unfold FileSystem.entryIn
  split
  · exact shape _
  · exact .none

theorem walkUntilLink_sameShape (shape : before.SameShape after)
    (followed : ∀ slash place names,
      Answers (FoundAlike before after) (jump slash place names) (later slash place names))
    (slash : Bool) (place : Place) (names : List String) :
    Answers (FoundAlike before after) (before.walkUntilLink goal jump slash place names)
      (after.walkUntilLink goal later slash place names) := by
  induction names generalizing place with
  | nil => exact .ok (.directory place)
  | cons name rest ih =>
    simp only [walkUntilLink]
    split
    · exact ih place
    split
    · exact ih place.outer
    split
    · exact .error _
    split
    · exact .error _
    have held := shape.entryIn place name
    generalize first : before.entryIn place name = one at held ⊢
    generalize second : after.entryIn place name = other at held ⊢
    cases held with
    | none =>
      dsimp only
      split
      · exact .ok (.vacant place name)
      · exact .error _
    | some alike =>
      cases alike with
      | directory => exact ih _
      | file one other =>
        simp only [atFile]
        split
        · split
          · exact .error _
          · exact .ok (.file (entryIn_eq_some.mp first).2 (entryIn_eq_some.mp second).2)
        · exact .error _
      | link target =>
        dsimp only
        split
        · exact followed _ _ _
        split
        · exact .ok (.link _)
        · exact followed _ _ _

theorem walkWithin_sameShape (shape : before.SameShape after) (budget : Nat) (slash : Bool)
    (place : Place) (names : List String) :
    Answers (FoundAlike before after) (before.walkWithin goal budget slash place names)
      (after.walkWithin goal budget slash place names) := by
  induction budget generalizing slash place names with
  | zero => exact walkUntilLink_sameShape shape (fun _ _ _ => .error _) slash place names
  | succ budget ih => exact walkUntilLink_sameShape shape ih slash place names

/-- What files hold does not lead a walk anywhere else. -/
theorem walk_sameShape (shape : before.SameShape after) (start : Place) (text : String) :
    Answers (FoundAlike before after) (before.walk start text goal) (after.walk start text goal) := by
  unfold walk
  split
  · exact .error _
  split
  · exact .error _
  exact walkWithin_sameShape shape maxLinks _ _ _

variable {same : Location → File → File → Prop}

theorem Corresponds.sameShape (corresponds : before.Corresponds same after) :
    before.SameShape after := by
  intro location
  have held := corresponds location
  generalize before.get? location = first at held ⊢
  generalize after.get? location = second at held ⊢
  cases held with
  | vacant => exact .none
  | directory => exact .some .directory
  | link target => exact .some (.link target)
  | file executable holds => exact .some (.file _ _)

theorem walk_corresponds (corresponds : before.Corresponds same after) (start : Place)
    (text : String) : Answers (Found.Corresponds same) (before.walk start text goal)
      (after.walk start text goal) := by
  apply (walk_sameShape corresponds.sameShape start text).mono
  intro first second alike
  cases alike with
  | directory place => exact .directory place
  | link location => exact .link location
  | vacant place name => exact .vacant place name
  | @file one other location held stored =>
    have kept := corresponds location
    rw [held, stored] at kept
    cases kept with
    | file executable holds => exact .file location executable holds

/-- What a walk to the name of a file comes to: the file, or a link in its place. -/
inductive Named (files : FileSystem) (location : Location) (file : File) :
    Except SystemCause Found → Prop where
  | file : Named files location file (.ok (.file location file))
  | link {place : Location} {target : String} (held : files.get? place = some (.link target)) :
      Named files location file (.ok (.link place))

theorem walkUntilLink_named {files : FileSystem} {location : Location} {file : File}
    (followed : ∀ slash place names, jump slash place names = .ok (.file location file) →
      Named files location file (later slash place names))
    {slash : Bool} {place : Place} {names : List String}
    (walked : files.walkUntilLink .entry jump slash place names = .ok (.file location file)) :
    Named files location file (files.walkUntilLink .name later slash place names) := by
  induction names generalizing place with
  | nil => cases walked
  | cons name rest ih =>
    simp only [walkUntilLink, reduceCtorEq, decide_false, Bool.and_false, Bool.false_eq_true,
      if_false] at walked ⊢
    split at walked
    · next dot =>
      rw [if_pos dot]
      exact ih walked
    next dot =>
    rw [if_neg dot]
    split at walked
    · next dots =>
      rw [if_pos dots]
      exact ih walked
    next dots =>
    rw [if_neg dots]
    split at walked
    · cases walked
    next long =>
    rw [if_neg long]
    cases held : files.entryIn place name with
    | none =>
      rw [held] at walked
      dsimp only at walked
      split at walked <;> cases walked
    | some entry =>
      rw [held] at walked
      cases entry with
      | directory => exact ih walked
      | file found =>
        dsimp only at walked ⊢
        split at walked
        · next last =>
          rw [if_pos last]
          unfold atFile at walked ⊢
          split at walked
          · cases walked
          · cases walked
            simp only [reduceCtorEq, decide_false, Bool.and_false, Bool.false_eq_true, if_false]
            exact .file
        · cases walked
      | link target =>
        dsimp only at walked ⊢
        split at walked
        · next inner =>
          rw [if_pos inner]
          exact followed _ _ _ walked
        · next last =>
          rw [if_neg last, if_pos trivial]
          exact .link (entryIn_eq_some.mp held).2

theorem walkWithin_named {files : FileSystem} {location : Location} {file : File} (budget : Nat)
    {slash : Bool} {place : Place} {names : List String}
    (walked : files.walkWithin .entry budget slash place names = .ok (.file location file)) :
    Named files location file (files.walkWithin .name budget slash place names) := by
  induction budget generalizing slash place names with
  | zero =>
    refine walkUntilLink_named ?_ walked
    intro slash place names jumped
    cases jumped
  | succ budget ih => exact walkUntilLink_named (fun _ _ _ => ih) walked

/-- A path that leads to a file names it, or a link. -/
theorem walk_named {files : FileSystem} {start : Place} {text : String} {location : Location}
    {file : File} (walked : files.walk start text .entry = .ok (.file location file)) :
    Named files location file (files.walk start text .name) := by
  unfold walk at walked ⊢
  split at walked
  · cases walked
  next filled =>
  rw [if_neg filled]
  split at walked
  · cases walked
  next short =>
  rw [if_neg short]
  exact walkWithin_named maxLinks walked

/-- A path from the root leads to the same from everywhere. -/
theorem walk_absolute (files : FileSystem) {text : String} (absolute : (Path.ofText text).absolute = true)
    (start other : Place) (goal : WalkGoal) : files.walk start text goal = files.walk other text goal := by
  simp only [walk, absolute, if_true]

def Appended (location : Location) (data : Bytes) (place : Location) (first second : File) : Prop :=
  second = if place = location then first.add data else first

theorem corresponds_appendAt (files : FileSystem) (location : Location) (data : Bytes) :
    files.Corresponds (Appended location data) (files.appendAt location data) := by
  intro place
  rw [get?_appendAt]
  by_cases same : place = location
  · rw [if_pos same]
    cases files.get? place with
    | none => exact .vacant
    | some entry =>
      cases entry with
      | directory => exact .directory
      | link target => exact .link target
      | file held => exact .file rfl (if_pos same).symm
  · rw [if_neg same]
    cases files.get? place with
    | none => exact .vacant
    | some entry =>
      cases entry with
      | directory => exact .directory
      | link target => exact .link target
      | file held => exact .file rfl (if_neg same).symm

end FileSystem

namespace World

structure Corresponds (same : Location → File → File → Prop) (before after : World) : Prop where
  files : before.files.Corresponds same after.files
  directory : after.directory = before.directory

variable {same : Location → File → File → Prop} {before after : World}

theorem Corresponds.find (corresponds : before.Corresponds same after) (path : String)
    (goal : WalkGoal) :
    Answers (Found.Corresponds same) (before.find path goal) (after.find path goal) := by
  unfold World.find
  rw [corresponds.directory]
  exact FileSystem.walk_corresponds corresponds.files _ path

def appendAt (world : World) (location : Location) (data : Bytes) : World :=
  { world with files := world.files.appendAt location data }

theorem corresponds_appendAt (world : World) (location : Location) (data : Bytes) :
    world.Corresponds (FileSystem.Appended location data) (world.appendAt location data) :=
  ⟨world.files.corresponds_appendAt location data, rfl⟩

end World

end CommandShell
