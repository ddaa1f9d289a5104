import CommandShell.Proofs.DirectoriesMade
import CommandShell.Proofs.NullCharacters

/-! Listing a directory beside looking a name up in it. A walk to a name in a directory goes
through the directory, so what it finds there under a plain name is among the names listed. -/

namespace CommandShell

theorem Text.fields_of_not_mem {α : Type} [DecidableEq α] {separator : α} {items : List α}
    (free : separator ∉ items) : fields separator items = [items] := by
  induction items with
  | nil => rfl
  | cons item rest ih =>
    obtain ⟨other, later⟩ := List.ne_and_not_mem_of_not_mem_cons free
    rw [fields, if_neg other.symm, ih later]

namespace Path

structure IsName (name : String) : Prop where
  filled : name ≠ ""
  bare : '/' ∉ name.toList

variable {directory name : String}

/-- A path that is put together has one slash before its name. -/
theorem join_divided (named : directory ≠ "") (bare : '/' ∉ name.toList) :
    ∃ before, (join directory name).toList = before ++ '/' :: name.toList ∧
      (directory.toList = before ∨ directory.toList = before ++ ['/']) := by
  have relative : name.toList.head? ≠ some '/' := by
    intro starts
    exact bare (List.mem_of_head? starts)
  rw [join, if_neg relative]
  by_cases slash : directory.toList.getLast? = some '/'
  · obtain ⟨before, divided⟩ := List.getLast?_eq_some_iff.mp slash
    refine ⟨before, ?_, .inr divided⟩
    simp [divided]
  · refine ⟨directory.toList, ?_, .inl rfl⟩
    simp [named, slash]

theorem names_join (named : directory ≠ "") (isName : IsName name) :
    (ofText (join directory name)).names = (ofText directory).names ++ [name] := by
  obtain ⟨before, divided, outer⟩ := join_divided named isName.bare
  have last : ((Text.fields '/' name.toList).filter fun field => !field.isEmpty).map String.ofList =
      [name] := by
    simp [Text.fields_of_not_mem isName.bare, isName.filled]
  simp only [ofText, Text.filledFields, divided, Text.fields_append, List.filter_append,
    List.map_append, last]
  rcases outer with same | same
  · rw [same]
  · simp [same, Text.fields_append, Text.fields]

theorem absolute_join (named : directory ≠ "") (bare : '/' ∉ name.toList) :
    (ofText (join directory name)).absolute = (ofText directory).absolute := by
  obtain ⟨before, divided, outer⟩ := join_divided named bare
  simp only [ofText, divided]
  rcases outer with same | same
  · cases before with
    | nil => exact absurd (String.toList_eq_nil_iff.mp same) named
    | cons first rest => simp [same]
  · cases before <;> simp [same]

end Path

namespace FileSystem

variable {files : FileSystem} {name : String} {place : Place} {location : Location} {file : File}

theorem walkWithin_of_walk {start : Place} {text : String} {goal : WalkGoal} {found : Found}
    (walked : files.walk start text goal = .ok found) :
    files.walkWithin goal maxLinks (Path.ofText text).endsInSlash
      (if (Path.ofText text).absolute then .root else start) (Path.ofText text).names =
        .ok found := by
  unfold walk at walked
  split at walked
  · cases walked
  split at walked
  · cases walked
  · exact walked

/-- The two ways to go on after a link, one of them with a name more. -/
def Leads (files : FileSystem) (name : String)
    (jump : Bool → Place → List String → Except SystemCause Found) : Prop :=
  ∀ slash more start names place location file,
    jump slash start names = .ok (.directory place) →
    jump more start (names ++ [name]) = .ok (.file location file) →
    ∃ entry, files.entryIn place name = some entry ∧ entry ≠ .directory

theorem entry_of_found {jump : Bool → Place → List String → Except SystemCause Found} {slash : Bool}
    (found : files.walkUntilLink .entry jump slash place [name] = .ok (.file location file)) :
    ∃ entry, files.entryIn place name = some entry ∧ entry ≠ .directory := by
  simp only [walkUntilLink] at found
  split at found
  · cases found
  split at found
  · cases found
  split at found
  · cases found
  split at found
  · cases found
  cases held : files.entryIn place name with
  | none =>
    rw [held] at found
    cases found
  | some entry =>
    refine ⟨entry, rfl, ?_⟩
    rintro rfl
    rw [held] at found
    cases found

theorem walkUntilLink_leads {jump : Bool → Place → List String → Except SystemCause Found}
    (followed : files.Leads name jump) :
    files.Leads name (files.walkUntilLink .entry jump) := by
  intro slash more start names place location file entered found
  induction names generalizing start with
  | nil =>
    obtain rfl := Found.directory.inj (Except.ok.inj entered)
    exact entry_of_found found
  | cons first rest ih =>
    rw [List.cons_append] at found
    by_cases dot : first = "."
    · simp only [walkUntilLink, dot, if_true] at entered found
      exact ih _ entered found
    by_cases dots : first = ".."
    · subst dots
      exact ih _ entered found
    by_cases long : (start.isLive && maxNameLength < byteLength first) = true
    · simp [walkUntilLink, dot, dots, long] at entered
    have inner : (rest ++ [name]).isEmpty = false := by simp
    have reading : decide (WalkGoal.entry = .write) = false := rfl
    simp only [walkUntilLink, dot, dots, long, inner, reading, Bool.and_false, Bool.false_eq_true,
      if_false, Bool.not_false, if_true] at entered found
    cases held : files.entryIn start first with
    | none =>
      rw [held] at found
      cases found
    | some entry =>
      rw [held] at entered found
      cases entry with
      | directory => exact ih _ entered found
      | file other => cases found
      | link target =>
        dsimp only at entered found
        rw [← List.append_assoc] at found
        split at entered
        · exact followed _ _ _ _ _ _ _ entered found
        next last =>
        -- The walk to the directory may also end with this link.
        obtain rfl : rest = [] := by simpa using last
        rw [List.append_nil] at found
        exact followed _ _ _ _ _ _ _ entered found

theorem walkWithin_leads (files : FileSystem) (name : String) (budget : Nat) :
    files.Leads name (files.walkWithin .entry budget) := by
  induction budget with
  | zero =>
    apply walkUntilLink_leads
    intro _ _ _ _ _ _ _ entered
    cases entered
  | succ budget ih => exact walkUntilLink_leads ih

theorem mem_namesIn {entry : Entry} (held : files.entryIn place name = some entry)
    (other : entry ≠ .directory) : name ∈ files.namesIn place.location := by
  have stored := (entryIn_eq_some.mp held).2
  have free : ¬files.IsFixed (name :: place.location) := by
    intro fixed
    rw [get?_of_fixed fixed] at stored
    exact other (Option.some.inj stored).symm
  rw [get?_of_not_fixed free] at stored
  obtain ⟨before, after, divided, -⟩ := List.lookup_eq_some_iff.mp stored
  rw [namesIn, List.mem_filterMap]
  refine ⟨(((name :: place.location).length, name :: place.location), entry), ?_, by simp⟩
  rw [divided]
  exact List.mem_append_right _ List.mem_cons_self

/-- Whether every entry has a name that an entry can have, and lies in directories with such
names. -/
def IsNamed (files : FileSystem) : Prop :=
  ∀ entry ∈ files.entries, ∀ name ∈ entry.1.2, Path.IsName name

theorem IsNamed.of_mem_namesIn (named : files.IsNamed) (member : name ∈ files.namesIn location) :
    Path.IsName name := by
  rw [namesIn, List.mem_filterMap] at member
  obtain ⟨⟨⟨depth, place⟩, entry⟩, inside, listed⟩ := member
  cases place with
  | nil => cases listed
  | cons first outer =>
    dsimp only at listed
    split at listed
    · obtain rfl := Option.some.inj listed
      exact named _ inside first List.mem_cons_self
    · cases listed

end FileSystem

namespace World

variable {world : World} {directory name path : String} {names : List String}

theorem find_of_isExecutableFile (runs : world.isExecutableFile path = true) :
    ∃ location file, world.find path .entry = .ok (.file location file) ∧
      file.executable = true := by
  unfold isExecutableFile at runs
  rw [Bool.and_eq_true] at runs
  obtain ⟨-, held⟩ := runs
  split at held
  · next location file found => exact ⟨location, file, found, held⟩
  · cases held

theorem listDirectory_ok (listed : world.listDirectory directory = .ok names) :
    ∃ place, world.find directory .entry = .ok (.directory place) ∧
      names = if place.isLive then world.files.namesIn place.location else [] := by
  have answered := request_ok listed
  split at answered
  · cases answered
  split at answered
  · cases answered
  · next place found => exact ⟨place, found, (Except.ok.inj answered).symm⟩
  · cases answered
  · cases answered
  · cases answered

theorem find_empty (world : World) (goal : WalkGoal) :
    world.find "" goal = .error .noSuchEntry := rfl

/-- A file that a name stands for in a directory is listed there. -/
theorem mem_of_listed (listed : world.listDirectory directory = .ok names)
    (isName : Path.IsName name) (runs : world.isExecutableFile (Path.join directory name) = true) :
    name ∈ names := by
  obtain ⟨place, entered, rfl⟩ := listDirectory_ok listed
  obtain ⟨location, file, found, -⟩ := find_of_isExecutableFile runs
  have named : directory ≠ "" := by
    rintro rfl
    rw [find_empty] at entered
    cases entered
  have outer := FileSystem.walkWithin_of_walk entered
  have inner := FileSystem.walkWithin_of_walk found
  rw [Path.names_join named isName, Path.absolute_join named isName.bare] at inner
  obtain ⟨entry, held, other⟩ := world.files.walkWithin_leads name _ _ _ _ _ _ _ _ outer inner
  rw [if_pos (FileSystem.entryIn_eq_some.mp held).1]
  exact FileSystem.mem_namesIn held other

end World

end CommandShell
