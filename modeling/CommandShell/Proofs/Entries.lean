import CommandShell.World

/-! What a tree of files holds after a change. A change at one location leaves all others as
they were, and only the directories that always exist cannot be replaced. -/

namespace CommandShell

def File.add (file : File) (data : Bytes) : File := { file with content := file.content.add data }

@[simp]
theorem File.bytes_add (file : File) (data : Bytes) : (file.add data).bytes = file.bytes ++ data :=
  Transcript.toBytes_add file.content data

@[simp]
theorem File.executable_add (file : File) (data : Bytes) :
    (file.add data).executable = file.executable := rfl

def Entry.append (data : Bytes) : Entry → Entry
  | .file held => .file (held.add data)
  | entry => entry

/-- The file that an entry is, an empty one where it is none. -/
def Entry.asFile : Option Entry → File
  | some (.file held) => held
  | _ => { content := {} }

namespace FileSystem

private theorem lookup_filter_ne {key other : DeepLocation} (different : key ≠ other)
    (entries : List (DeepLocation × Entry)) :
    (entries.filter (·.1 ≠ other)).lookup key = entries.lookup key := by
  induction entries with
  | nil => rfl
  | cons entry entries ih =>
    obtain ⟨place, stored⟩ := entry
    rw [List.filter_cons, List.lookup_cons]
    split
    · rw [List.lookup_cons, ih]
    · next removed =>
      have same : place = other := by simpa using removed
      have skipped : (key == place) = false := beq_eq_false_iff_ne.mpr (same ▸ different)
      simp only [skipped, ih]

/-- Whether a location is that of a directory that always exists. -/
def IsFixed (files : FileSystem) (location : Location) : Prop :=
  (location.length ≤ files.owned.length && location.isSuffixOf files.owned) = true

theorem get?_of_fixed {files : FileSystem} {location : Location} (fixed : files.IsFixed location) :
    files.get? location = some .directory := by
  simp only [get?, IsFixed] at fixed ⊢
  rw [if_pos fixed]

theorem get?_of_not_fixed {files : FileSystem} {location : Location}
    (free : ¬files.IsFixed location) :
    files.get? location = files.entries.lookup (location.length, location) := by
  simp only [get?, IsFixed] at free ⊢
  rw [if_neg free]

theorem get?_set_other (files : FileSystem) {location other : Location}
    (different : other ≠ location) (entry : Entry) :
    (files.set location entry).get? other = files.get? other := by
  by_cases fixed : files.IsFixed other
  · have still : (files.set location entry).IsFixed other := fixed
    rw [get?_of_fixed fixed, get?_of_fixed still]
  · have keys : ((other.length, other) : DeepLocation) ≠ (location.length, location) := by
      intro same
      exact different (congrArg Prod.snd same)
    have skipped := beq_eq_false_iff_ne.mpr keys
    have still : ¬(files.set location entry).IsFixed other := fixed
    rw [get?_of_not_fixed fixed, get?_of_not_fixed still]
    simp only [set, List.lookup_cons, skipped]
    exact lookup_filter_ne keys files.entries

theorem get?_set_free (files : FileSystem) {location : Location} (free : ¬files.IsFixed location)
    (entry : Entry) : (files.set location entry).get? location = some entry := by
  rw [get?_of_not_fixed (show ¬(files.set location entry).IsFixed location from free)]
  simp [set]

theorem get?_set_self (files : FileSystem) {location : Location}
    (replaceable : files.get? location ≠ some .directory) (entry : Entry) :
    (files.set location entry).get? location = some entry := by
  apply get?_set_free
  intro fixed
  exact replaceable (get?_of_fixed fixed)

def fileAt (files : FileSystem) (location : Location) : File :=
  Entry.asFile (files.get? location)

theorem fileAt_of_file {files : FileSystem} {location : Location} {file : File}
    (held : files.get? location = some (.file file)) : files.fileAt location = file := by
  rw [fileAt, held]
  rfl

/-- Bytes go behind the content of a file and leave any other entry as it is. -/
theorem get?_appendAt (files : FileSystem) (location other : Location) (data : Bytes) :
    (files.appendAt location data).get? other =
      if other = location then (files.get? other).map (Entry.append data) else files.get? other := by
  unfold appendAt
  by_cases same : other = location
  · subst same
    rw [if_pos rfl]
    split
    · next file held =>
      rw [get?_set_self files (by simp [held]), held]
      rfl
    · next missing =>
      cases held : files.get? other with
      | none => rfl
      | some entry =>
        cases entry with
        | file file => exact absurd held (missing file)
        | directory => rfl
        | link target => rfl
  · rw [if_neg same]
    split
    · exact get?_set_other files same _
    · rfl

@[simp]
theorem owned_appendAt (files : FileSystem) (location : Location) (data : Bytes) :
    (files.appendAt location data).owned = files.owned := by
  unfold appendAt
  split <;> rfl

@[simp]
theorem denied_appendAt (files : FileSystem) (location : Location) (data : Bytes) :
    (files.appendAt location data).denied = files.denied := by
  unfold appendAt
  split <;> rfl

end FileSystem

end CommandShell
