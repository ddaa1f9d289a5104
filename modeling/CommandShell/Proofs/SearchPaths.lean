import CommandShell.Proofs.CommandNames
import Mathlib.Data.Finset.Basic

/-! Search paths with a colon between them. Whatever is looked for, the directories of the first path
come before those of the second one, and nothing else comes between. A lookup stops at the first
directory that holds something, and completion goes through all of them. -/

namespace CommandShell

section Directories

variable (first second : String)

theorem searchDirectories_append : searchDirectories (first ++ ":" ++ second) =
    searchDirectories first ++ searchDirectories second := by
  have divided : (first ++ ":" ++ second).toList = first.toList ++ ':' :: second.toList := by
    simp
  simp only [searchDirectories, Text.filledFields, divided, Text.fields_append, List.filter_append,
    List.map_append]

@[simp]
theorem searchDirectories_empty : searchDirectories "" = [] := rfl

/-- No entry of a search path stands for the working directory by being empty. -/
theorem empty_not_mem_searchDirectories (path : String) : "" ∉ searchDirectories path := by
  intro member
  simp only [searchDirectories, Text.filledFields, List.mem_map, List.mem_filter] at member
  obtain ⟨field, ⟨-, filled⟩, same⟩ := member
  rw [String.ofList_eq_empty_iff] at same
  simp [same] at filled

theorem searchDirectories_leading : searchDirectories (":" ++ first) = searchDirectories first := by
  simpa using searchDirectories_append "" first

theorem searchDirectories_trailing : searchDirectories (first ++ ":") = searchDirectories first := by
  simpa using searchDirectories_append first ""

theorem searchDirectories_doubled : searchDirectories (first ++ "::" ++ second) =
    searchDirectories (first ++ ":" ++ second) := by
  have apart : first ++ "::" ++ second = first ++ ":" ++ (":" ++ second) := by
    simp only [String.append_assoc]
    rfl
  rw [apart, searchDirectories_append, searchDirectories_leading, searchDirectories_append]

end Directories

namespace World

variable (world : World) (name first second : String)

theorem findProgram_append : world.findProgram name (first ++ ":" ++ second) =
    (world.findProgram name first).or (world.findProgram name second) := by
  simp only [findProgram, findAlong, searchDirectories_append, List.map_append, List.find?_append]

/-- Only a name that is looked for along the search path can be found in the second one. -/
theorem resolve_append : world.resolve name (first ++ ":" ++ second) =
    match world.resolve name first with
    | .notFound _ => world.resolve name second
    | found => found := by
  unfold resolve
  cases Builtin.ofName? name with
  | some builtin => rfl
  | none =>
    dsimp only
    split
    · cases world.isFile name <;> rfl
    · rw [findProgram_append]
      cases world.findProgram name first <;> rfl

theorem programsAlong_append (directories others : List String) :
    (world.programsAlong (directories ++ others)).2 =
      (world.programsAlong directories).2.bind fun names =>
        (world.programsAlong others).2.map (names ++ ·) := by
  induction directories with
  | nil =>
    cases found : (world.programsAlong others).2 <;> simp [programsAlong, found, Except.bind, Except.map]
  | cons directory later ih =>
    rw [List.cons_append]
    cases here : world.programsIn directory with
    | ok programs =>
      rw [programsAlong_cons _ here, programsAlong_cons _ here, ih]
      cases (world.programsAlong later).2 with
      | error fault => rfl
      | ok names =>
        cases (world.programsAlong others).2 with
        | error fault => rfl
        | ok more => simp [Except.bind, Except.map]
    | error fault =>
      cases fault with
      | system error =>
        rw [programsAlong_skipped _ here, programsAlong_skipped _ here]
        exact ih
      | _ =>
        simp only [programsAlong, here]
        rfl

/-- Directories that are the same ones, in whatever order and however often, hold the same
programs. -/
theorem programsAlong_of_mem_iff {directories others : List String}
    (same : ∀ directory, directory ∈ others ↔ directory ∈ directories) :
    Answers (fun names more => ∀ name, name ∈ more ↔ name ∈ names)
      (world.programsAlong directories).2 (world.programsAlong others).2 := by
  by_cases proper : ∀ directory ∈ directories, hasNull directory = false
  · have alike : ∀ directory ∈ others, hasNull directory = false :=
      fun directory member => proper directory ((same directory).mp member)
    obtain ⟨names, found⟩ := programsAlong_of_proper world proper
    obtain ⟨more, listed⟩ := programsAlong_of_proper world alike
    rw [found, listed]
    refine .ok ?_
    intro name
    simp only [mem_programsAlong_iff found, mem_programsAlong_iff listed, same]
  · push Not at proper
    obtain ⟨directory, member, held⟩ := proper
    have null : hasNull directory = true := by simpa using held
    rw [programsAlong_of_null world null member,
      programsAlong_of_null world null ((same directory).mpr member)]
    exact .error _

def commandSet (path : String) : Except Fault (Finset String) :=
  (world.commandNames path).2.map List.toFinset

theorem commandSet_append : world.commandSet (first ++ ":" ++ second) =
    (world.commandSet first).bind fun names => (world.commandSet second).map (names ∪ ·) := by
  simp only [commandSet, commandNames_eq, searchDirectories_append, programsAlong_append]
  cases (world.programsAlong (searchDirectories first)).2 with
  | error fault => rfl
  | ok names =>
    cases (world.programsAlong (searchDirectories second)).2 with
    | error fault => rfl
    | ok more =>
      have union : (Builtin.names ++ (names ++ more)).toFinset =
          (Builtin.names ++ names).toFinset ∪ (Builtin.names ++ more).toFinset := by
        ext name
        simp only [List.mem_toFinset, Finset.mem_union, List.mem_append]
        tauto
      exact congrArg Except.ok union

theorem commandSet_of_mem_iff {path other : String}
    (same : ∀ directory, directory ∈ searchDirectories other ↔ directory ∈ searchDirectories path) :
    world.commandSet other = world.commandSet path := by
  have programs := world.programsAlong_of_mem_iff same
  simp only [commandSet, commandNames_eq]
  generalize (world.programsAlong (searchDirectories path)).2 = one at programs ⊢
  generalize (world.programsAlong (searchDirectories other)).2 = another at programs ⊢
  cases programs with
  | error fault => rfl
  | ok alike =>
    have equal := fun name => or_congr_right (a := name ∈ Builtin.names) (alike name)
    refine congrArg Except.ok ?_
    ext name
    simpa only [List.mem_toFinset, List.mem_append] using equal name

/-- What a search path finds is put together from what its parts find. Empty entries are no
directories, so they make no difference. A lookup takes the second part only where the first one has
nothing, while the names to complete are those of both parts, whatever order they come in. -/
theorem search_composes :
    (searchDirectories (first ++ ":" ++ second) =
        searchDirectories first ++ searchDirectories second ∧
      searchDirectories (":" ++ first) = searchDirectories first ∧
      searchDirectories (first ++ ":") = searchDirectories first ∧
      searchDirectories (first ++ "::" ++ second) = searchDirectories (first ++ ":" ++ second) ∧
      "" ∉ searchDirectories first) ∧
    (world.findProgram name (first ++ ":" ++ second) =
      match world.findProgram name first with
      | some found => some found
      | none => world.findProgram name second) ∧
    (world.resolve name (first ++ ":" ++ second) =
      match world.resolve name first with
      | .notFound _ => world.resolve name second
      | found => found) ∧
    (world.commandSet (first ++ ":" ++ second) =
      (world.commandSet first).bind fun names => (world.commandSet second).map (names ∪ ·)) ∧
    ∀ other, (∀ directory, directory ∈ searchDirectories other ↔
        directory ∈ searchDirectories first) →
      world.commandSet other = world.commandSet first := by
  refine ⟨⟨searchDirectories_append first second, searchDirectories_leading first,
    searchDirectories_trailing first, searchDirectories_doubled first second,
    empty_not_mem_searchDirectories first⟩, ?_, world.resolve_append name first second,
    world.commandSet_append first second, fun other => world.commandSet_of_mem_iff⟩
  rw [findProgram_append]
  cases world.findProgram name first <;> rfl

end World

end CommandShell
