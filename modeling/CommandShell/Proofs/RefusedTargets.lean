import CommandShell.Proofs.CommandFaults
import CommandShell.Proofs.RedirectedRuns

/-! Targets that are refused. Whatever the system refuses, and however far the write has come, all
that there was is still there as it was. What is left behind are directories on the way to the
target, with nothing in them but each other. -/

namespace CommandShell

namespace FileSystem

def IsTree (files : FileSystem) : Prop :=
  ∀ name location entry, files.get? (name :: location) = some entry →
    files.get? location = some .directory

/-- It is enough that the table says so. The directories that always exist lie in each other. -/
theorem isTree_of_entries {files : FileSystem}
    (placed : ∀ stored ∈ files.entries, files.get? stored.1.2.tail = some .directory) :
    files.IsTree := by
  intro name location entry held
  by_cases fixed : files.IsFixed (name :: location)
  · simp only [IsFixed, Bool.and_eq_true, decide_eq_true_eq, List.isSuffixOf_iff_suffix] at fixed
    have around : location <:+ files.owned := (List.suffix_cons name location).trans fixed.2
    apply get?_of_fixed
    simp only [IsFixed, Bool.and_eq_true, decide_eq_true_eq, List.isSuffixOf_iff_suffix]
    exact ⟨around.length_le, around⟩
  · rw [get?_of_not_fixed fixed] at held
    obtain ⟨before, after, divided, -⟩ := List.lookup_eq_some_iff.mp held
    exact placed (((name :: location).length, name :: location), entry) (by simp [divided])

end FileSystem

namespace World

/-- What the system refuses where a target is not written: to make a directory, or else to open
the file. -/
inductive RefusesTarget (world : World) (redirection : Redirection) (data : Bytes)
    (error : SystemError) : Prop where
  | directory (refused : (world.prepareTarget redirection.target).2 = .error (.system error))
  | file {made : World} (prepared : world.prepareTarget redirection.target = (made, .ok ()))
      (refused : made.writeFile redirection.target redirection.mode data = .error (.system error))

/-- All that there was is as it was, and all that is new are directories on the way of a path. Where
there was a tree, there is nothing in them but each other. -/
structure OnlyMade (path : String) (before after : World) : Prop where
  directory : after.directory = before.directory
  owned : after.files.owned = before.files.owned
  denied : after.files.denied = before.files.denied
  kept : ∀ location entry, before.files.get? location = some entry →
    after.files.get? location = some entry
  made : ∀ location entry, before.files.get? location = none →
    after.files.get? location = some entry → entry = .directory ∧ after.OnTheWay path location
  enclosed : before.files.IsTree → ∀ name location entry, before.files.get? location = none →
    after.files.get? (name :: location) = some entry →
    before.files.get? (name :: location) = none ∧ entry = .directory

variable {before after world : World} {path : String} {redirection : Redirection} {data : Bytes}

/-- Without a log file nothing is kept but what stays the same. -/
theorem Turned.unlogged {location : Location} {first second : Option Entry}
    (turned : Turned .silent after path location first second) :
    second = first ∨ first = none ∧ second = some .directory ∧ after.OnTheWay path location := by
  cases turned with
  | kept same => exact .inl (same.eq nofun)
  | made leads => exact .inr ⟨rfl, rfl, leads⟩

theorem DirectoriesMade.onlyMade (made : DirectoriesMade .silent path before after)
    (same : after.directory = before.directory) : OnlyMade path before after where
  directory := same
  owned := made.owned
  denied := made.denied
  kept location entry held := by
    rcases (made.entries location).unlogged with same | ⟨vacant, -⟩
    · exact same.trans held
    · cases vacant.symm.trans held
  made location entry vacant stored := by
    rcases (made.entries location).unlogged with same | ⟨-, created, leads⟩
    · cases (same.symm.trans stored).symm.trans vacant
    · exact ⟨Option.some.inj (stored.symm.trans created), leads⟩
  enclosed tree name location entry vacant stored := by
    rcases (made.entries (name :: location)).unlogged with same | ⟨free, created, -⟩
    · cases (tree name location entry (same.symm.trans stored)).symm.trans vacant
    · exact ⟨free, Option.some.inj (stored.symm.trans created)⟩

theorem refusesTarget_of_writeTarget {error : SystemError}
    (refused : (world.writeTarget redirection data).2 = .error (.system error)) :
    world.RefusesTarget redirection data error := by
  unfold writeTarget at refused
  rcases prepared : world.prepareTarget redirection.target with ⟨made, fault | done⟩
  · rw [prepared] at refused
    apply RefusesTarget.directory
    rw [prepared]
    exact refused
  · rw [prepared] at refused
    apply RefusesTarget.file prepared
    dsimp only at refused
    cases written : made.writeFile redirection.target redirection.mode data with
    | error fault =>
      rw [written] at refused
      exact congrArg _ (Except.error.inj refused)
    | ok after =>
      rw [written] at refused
      cases refused

end World

namespace Redirection

/-- Only a refusal of the system is reported as one of the target. -/
theorem refusal_eq_redirectionWrite {command name target reason : String}
    {redirection : Redirection} {fault : Fault} (outside : fault.IsOutside)
    (reported : redirection.refusal command fault = .shell (.redirectionWrite name target reason)) :
    ∃ error, fault = .system error ∧ name = command ∧ target = redirection.target ∧
      reason = error.cause.reason := by
  cases fault with
  | system error =>
    cases reported
    exact ⟨error, rfl, rfl, rfl, rfl⟩
  | shell error => cases outside
  | _ => cases reported

end Redirection

variable {command name target reason : String} {redirection : Redirection} {data : Bytes}
  {machine after : Machine}

/-- A refused target has destroyed nothing. The message names the command and the target, and gives
the reason of the system. -/
theorem writeRedirected_destroys_nothing
    (refused : (writeRedirected command redirection data).on machine =
      (.error (.shell (.redirectionWrite name target reason)), after)) :
    World.OnlyMade (Path.directoryPart redirection.target) machine.world after.world ∧
      after = { machine with world := after.world } ∧
      ∃ error, machine.world.RefusesTarget redirection data error ∧
        (ShellError.redirectionWrite name target reason).message =
          command ++ ": " ++ redirection.target ++ ": " ++ error.cause.reason := by
  rw [writeRedirected_eq] at refused
  rcases answered : machine.world.writeTarget redirection data with ⟨made, fault | done⟩
  · rw [answered] at refused
    obtain ⟨reported, rfl⟩ := Prod.mk.inj refused
    have ended : (machine.world.writeTarget redirection data).2 = .error fault :=
      congrArg Prod.snd answered
    have outside := World.writeTarget_outside _ _ _ fault ended
    obtain ⟨error, rfl, rfl, rfl, rfl⟩ :=
      Redirection.refusal_eq_redirectionWrite outside (Except.error.inj reported)
    obtain ⟨same, only⟩ := World.writeTarget_refused .silent ended
    rw [answered] at same only
    exact ⟨only.onlyMade same, rfl, error, World.refusesTarget_of_writeTarget ended, rfl⟩
  · rw [answered] at refused
    cases refused

/-- Directories are made for a target that then cannot be opened, as it is one of them. -/
theorem writeRedirected_destroys_nothing_slash :
    Execution.machineWithNote.world.files.IsTree ∧ ∃ after,
      (writeRedirected "echo" ⟨.output, .overwrite, "one/two/"⟩ [104]).on Execution.machineWithNote =
        (.error (.shell (.redirectionWrite "echo" "one/two/" "Is a directory")), after) ∧
      World.OnlyMade "one/two" Execution.machineWithNote.world after.world ∧
      after.world.files.get? ["two", "one"] = some .directory := by
  have tree : Execution.machineWithNote.world.files.IsTree :=
    FileSystem.isTree_of_entries (by decide)
  have cut : Path.directoryPart "one/two/" = "one/two" := by decide
  rcases ran : (writeRedirected "echo" ⟨.output, .overwrite, "one/two/"⟩ [104]).on
    Execution.machineWithNote with ⟨answer, after⟩
  have refused : ((writeRedirected "echo" ⟨.output, .overwrite, "one/two/"⟩ [104]).on
      Execution.machineWithNote).1 =
        .error (.shell (.redirectionWrite "echo" "one/two/" "Is a directory")) := by decide +kernel
  have made : ((writeRedirected "echo" ⟨.output, .overwrite, "one/two/"⟩ [104]).on
      Execution.machineWithNote).2.world.files.get? ["two", "one"] = some .directory := by
    decide +kernel
  rw [ran] at refused made
  obtain rfl : answer = _ := refused
  obtain ⟨only, -⟩ := writeRedirected_destroys_nothing ran
  rw [cut] at only
  exact ⟨tree, after, rfl, only, made⟩

end CommandShell
