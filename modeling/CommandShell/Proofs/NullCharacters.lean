import CommandShell.Launch
import CommandShell.Resolution

/-! Where the character zero in a text for the system can come from. The shell puts texts
together without adding one, and it does not take a file for a program under a path with one. -/

namespace CommandShell

theorem Text.mem_of_mem_fields {α : Type} [DecidableEq α] {separator item : α}
    {items field : List α} (member : field ∈ fields separator items) (held : item ∈ field) :
    item ∈ items := by
  induction items generalizing field with
  | nil =>
    obtain rfl : field = [] := List.mem_singleton.mp member
    exact held
  | cons first rest ih =>
    rw [fields] at member
    split at member
    · rcases List.mem_cons.mp member with rfl | later
      · cases held
      · exact List.mem_cons_of_mem first (ih later held)
    · split at member
      · obtain rfl := List.mem_singleton.mp member
        rw [List.mem_singleton.mp held]
        exact List.mem_cons_self
      · next head tail divided =>
        rw [divided] at ih
        rcases List.mem_cons.mp member with rfl | later
        · rcases List.mem_cons.mp held with rfl | inside
          · exact List.mem_cons_self
          · exact List.mem_cons_of_mem first (ih List.mem_cons_self inside)
        · exact List.mem_cons_of_mem first (ih (List.mem_cons_of_mem head later) held)

namespace World

variable {text further : String}

theorem hasNull_iff : hasNull text = true ↔ '\x00' ∈ text.toList := List.contains_iff_mem

theorem hasNull_of_sublist (kept : text.toList.Sublist further.toList)
    (held : hasNull text = true) : hasNull further = true :=
  hasNull_iff.mpr (kept.subset (hasNull_iff.mp held))

theorem hasNull_join {directory name : String} (held : hasNull (Path.join directory name) = true) :
    hasNull directory = true ∨ hasNull name = true := by
  simp only [hasNull_iff] at held ⊢
  unfold Path.join at held
  split at held
  · exact .inr held
  split at held
  · simpa using held
  · simpa using held

/-- A program is found under a path that can be given to the system. -/
theorem not_hasNull_of_program {world : World} {name path found : String}
    (resolved : world.resolve name path = .program found) : hasNull found = false := by
  have file : world.isFile found = true := by
    unfold resolve at resolved
    split at resolved
    · cases resolved
    split at resolved
    · split at resolved
      · next file =>
        cases resolved
        exact file
      · cases resolved
    · split at resolved
      · next located =>
        cases resolved
        exact List.find?_some located
      · cases resolved
  simp only [isFile, Bool.and_eq_true, Bool.not_eq_true'] at file
  exact file.1

end World

/-- A candidate is put together from the path of the program and the search path. -/
theorem Launch.hasNull_of_candidate {launch : Launch} {candidate : String}
    (member : candidate ∈ launch.candidates) (held : World.hasNull candidate = true) :
    World.hasNull launch.executable = true ∨
      ∃ entry ∈ launch.environment, World.hasNull entry.2 = true := by
  unfold candidates at member
  split at member
  · obtain rfl := List.mem_singleton.mp member
    exact .inl held
  simp only [List.mem_map] at member
  obtain ⟨directory, ⟨field, inside, rfl⟩, rfl⟩ := member
  rcases World.hasNull_join held with held | held
  · right
    rw [World.hasNull_iff, String.toList_ofList] at held
    have searched := Text.mem_of_mem_fields inside held
    cases found : launch.environment.get? "PATH" with
    | none =>
      rw [found] at searched
      exact absurd searched (by decide)
    | some value =>
      rw [found] at searched
      obtain ⟨before, after, divided, -⟩ := List.lookup_eq_some_iff.mp found
      refine ⟨("PATH", value), ?_, World.hasNull_iff.mpr searched⟩
      rw [divided]
      exact List.mem_append_right _ List.mem_cons_self
  · exact .inl held

end CommandShell
