import CommandShell.Proofs.DirectoriesMade
import Mathlib.Data.List.DropRight

/-! How many directories lie around a target. A path has no more of them than slashes, for every
directory that is cut off takes a slash with it. -/

namespace CommandShell

namespace Path

theorem dropEndSlashes_concat {before : List Char} (named : ∃ char ∈ before, char ≠ '/') :
    dropEndSlashes (before ++ ['/']) <+: before := by
  obtain ⟨char, member, other⟩ := named
  have mixed : ¬(before ++ ['/']).all (· = '/') = true := by
    intro all
    simp only [List.all_eq_true, decide_eq_true_eq] at all
    exact other (all char (List.mem_append_left _ member))
  rw [dropEndSlashes, if_neg mixed]
  change (before ++ ['/']).rdropWhile (· = '/') <+: before
  rw [List.rdropWhile_concat_pos _ _ _ (by simp)]
  exact List.rdropWhile_prefix _ _

/-- A slash goes where a path is cut, unless there are only slashes before its last name. -/
theorem cut_slashes {text : String} (inner : (cut text).1 ≠ "") :
    (cut text).1.toList.count '/' < text.toList.count '/' ∨
      ∀ char ∈ (cut text).1.toList, char = '/' := by
  have leading : text.toList.rdropWhile (· ≠ '/') <+: text.toList := List.rdropWhile_prefix _ _
  have slash := List.rdropWhile_last_not (· ≠ '/') text.toList
  have parent : (cut text).1 =
    String.ofList (dropEndSlashes (text.toList.rdropWhile (· ≠ '/'))) := rfl
  rw [parent] at inner ⊢
  generalize text.toList.rdropWhile (· ≠ '/') = outer at inner leading slash ⊢
  rw [String.toList_ofList]
  rcases List.eq_nil_or_concat outer with rfl | ⟨before, last, rfl⟩
  · exact absurd rfl inner
  obtain rfl : last = '/' := by simpa using slash
  rw [List.concat_eq_append] at leading ⊢
  by_cases named : ∃ char ∈ before, char ≠ '/'
  · left
    have kept := (dropEndSlashes_concat named).sublist.count_le '/'
    have within := leading.sublist.count_le '/'
    rw [List.count_append, List.count_singleton_self] at within
    omega
  · right
    push Not at named
    intro char member
    have whole := (dropEndSlashes_leading _).subset member
    rcases List.mem_append.mp whole with early | late
    · exact named char early
    · exact List.mem_singleton.mp late

theorem cut_of_slashes {text : String} (slashes : ∀ char ∈ text.toList, char = '/') :
    (cut text).2 = "" ∧ ∀ char ∈ (cut text).1.toList, char = '/' := by
  refine ⟨?_, fun char member => slashes char ((cut_leading text).subset member)⟩
  have none : text.toList.rtakeWhile (· ≠ '/') = [] := by
    rw [List.rtakeWhile_eq_nil_iff]
    intro filled
    simpa using slashes _ (List.getLast_mem filled)
  have name : (cut text).2 = String.ofList (text.toList.rtakeWhile (· ≠ '/')) := rfl
  rw [name, none]

end Path

namespace World

theorem parentAndName_of_slashes {path : String} (slashes : ∀ char ∈ path.toList, char = '/') :
    (parentAndName path).2 = "" := by
  obtain ⟨nameless, outer⟩ := Path.cut_of_slashes slashes
  simp only [parentAndName, nameless, if_true]
  exact (Path.cut_of_slashes outer).1

theorem parentAndName_slashes {path : String} (inner : (parentAndName path).1 ≠ "") :
    (parentAndName path).1.toList.count '/' < path.toList.count '/' ∨
      ∀ char ∈ (parentAndName path).1.toList, char = '/' := by
  unfold parentAndName at inner ⊢
  dsimp only at inner ⊢
  split at inner
  · next nameless =>
    rw [if_pos nameless]
    have within := (Path.cut_leading path).sublist.count_le '/'
    rcases Path.cut_slashes inner with fewer | slashes
    · left
      omega
    · exact .inr slashes
  · next named =>
    rw [if_neg named]
    exact Path.cut_slashes inner

theorem ensureDirectoriesWithin_of_slashes {path : String} (depth : Nat) (world : World)
    (slashes : ∀ char ∈ path.toList, char = '/') :
    ensureDirectoriesWithin (depth + 1) world path = world.ensureDirectory path := by
  have nameless := parentAndName_of_slashes slashes
  rw [ensureDirectoriesWithin]
  generalize parentAndName path = parts at nameless
  obtain ⟨parent, name⟩ := parts
  obtain rfl : name = "" := nameless
  simp only [decide_true, Bool.or_true, Bool.true_or, if_true]

end World

end CommandShell
