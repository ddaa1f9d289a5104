import CommandShell.Proofs.Answers
import CommandShell.Proofs.Attempts
import CommandShell.Proofs.NullCharacters
import CommandShell.Proofs.TargetDepth
import CommandShell.Proofs.TargetWrites

/-! What a command can end with. Requests to the system are refused or cannot be made, and each
reason why one cannot be made shows in the texts of the command and in the settings. An error of
the shell itself comes only from a name that stands for nothing. -/

namespace CommandShell

/-- Whether a fault is no error of the shell itself. -/
def Fault.IsOutside : Fault → Prop
  | .shell _ => False
  | _ => True

def Fault.Outside {α : Type} (answer : Except Fault α) : Prop :=
  ∀ fault, answer = .error fault → fault.IsOutside

namespace Fault

/-- What the system makes of requests. It refuses them as it likes, and the other faults have
their reasons: the character zero, a name that no variable can have, directories too deep. -/
inductive Arises (zero misnamed deep : Prop) : Fault → Prop where
  | system (error : SystemError) : Arises zero misnamed deep (.system error)
  | nullCharacter (held : zero) : Arises zero misnamed deep .nullCharacter
  | variableName (held : misnamed) : Arises zero misnamed deep .variableName
  | targetTooDeep (far : deep) : Arises zero misnamed deep .targetTooDeep

section Answers

variable {α : Type}

theorem Outside.ok (value : α) : Outside (.ok value) := Only.ok value

theorem Outside.error {fault : Fault} (outside : fault.IsOutside) :
    Outside (.error fault : Except Fault α) := Only.error outside

variable {zero misnamed deep zero' misnamed' deep' : Prop}

theorem Arises.mono {fault : Fault} (arises : Arises zero misnamed deep fault)
    (first : zero → zero') (second : misnamed → misnamed') (third : deep → deep') :
    Arises zero' misnamed' deep' fault := by
  cases arises with
  | system error => exact .system error
  | nullCharacter held => exact .nullCharacter (first held)
  | variableName held => exact .variableName (second held)
  | targetTooDeep far => exact .targetTooDeep (third far)

theorem Arises.isOutside {fault : Fault} (arises : Arises zero misnamed deep fault) :
    fault.IsOutside := by
  cases arises <;> trivial

/-- A request cannot be made for the character zero alone. -/
theorem Only.of_zero {answer : Except Fault α} (only : Only (Arises zero False False) answer)
    (implies : zero → zero') : Only (Arises zero' misnamed deep) answer :=
  only.mono fun _ arises => arises.mono implies False.elim False.elim

end Answers

end Fault

open Fault (Only Arises Outside)

namespace World

variable {α : Type} (world : World) (path : String)

theorem request_arises (answer : Except SystemCause α) :
    Only (Arises (hasNull path = true) False False) (request path answer) := by
  unfold request
  split
  · next held => exact .error (.nullCharacter held)
  · cases answer with
    | ok value => exact .ok value
    | error cause => exact .error (.system _)

theorem workingDirectory_arises : Only (Arises False False False) world.workingDirectory := by
  unfold workingDirectory
  split
  · exact .ok _
  · exact .error (.system _)

theorem ensureDirectory_arises :
    Only (Arises (hasNull path = true) False False) (world.ensureDirectory path).2 := by
  unfold ensureDirectory
  split
  · exact .ok _
  · dsimp only
    split
    · exact .ok _
    · exact .error (.system _)
  · next fault _ refused => exact .error (request_arises path _ fault refused)

/-- Directories are too deep only for a path with that many slashes. -/
theorem ensureDirectoriesWithin_arises (depth : Nat) :
    Only (Arises (hasNull path = true) False (depth ≤ path.toList.count '/'))
      (ensureDirectoriesWithin depth world path).2 := by
  induction depth generalizing path with
  | zero => exact .error (.targetTooDeep (Nat.zero_le _))
  | succ depth ih =>
    have around : (parentAndName path).1 ≠ "" →
        Only (Arises (hasNull path = true) False (depth + 1 ≤ path.toList.count '/'))
          (ensureDirectoriesWithin depth world (parentAndName path).1).2 := by
      intro inner
      have leading := (parentAndName_leading path).sublist
      rcases parentAndName_slashes inner with fewer | slashes
      · refine (ih _).mono fun fault arises => arises.mono (hasNull_of_sublist leading) id ?_
        intro deep
        omega
      · cases depth with
        | zero =>
          -- The slash that the directory part consists of is one of the path.
          obtain ⟨slash, member⟩ :=
            List.exists_mem_of_ne_nil _ (mt String.toList_eq_nil_iff.mp inner)
          have held : '/' ∈ path.toList := slashes slash member ▸ leading.subset member
          exact .error (.targetTooDeep (List.count_pos_iff.mpr held))
        | succ depth =>
          rw [ensureDirectoriesWithin_of_slashes depth world slashes]
          exact (ensureDirectory_arises world _).of_zero (hasNull_of_sublist leading)
    have inner (world : World) :
        Only (Arises (hasNull path = true) False (depth + 1 ≤ path.toList.count '/'))
          (world.ensureDirectory path).2 := (world.ensureDirectory_arises path).of_zero id
    rw [ensureDirectoriesWithin]
    generalize parentAndName path = parts at around
    obtain ⟨parent, name⟩ := parts
    dsimp only at around ⊢
    split
    · exact inner world
    next absent =>
    have outer := around (by simp_all)
    generalize ensureDirectoriesWithin depth world parent = answer at outer ⊢
    obtain ⟨made, result⟩ := answer
    cases result with
    | ok done =>
      dsimp only
      split
      · exact .ok _
      · exact inner made
    | error fault =>
      dsimp only
      split
      · exact .error (outer fault rfl)
      split
      · exact .ok _
      · exact inner made

theorem writeTarget_arises (redirection : Redirection) (data : Bytes) :
    Only (Arises (hasNull redirection.target = true) False
        (maxDirectories ≤ redirection.target.toList.count '/'))
      (world.writeTarget redirection data).2 := by
  have prepared : Only (Arises (hasNull redirection.target = true) False
      (maxDirectories ≤ redirection.target.toList.count '/'))
      (world.prepareTarget redirection.target).2 := by
    have leading := (Path.cut_leading redirection.target).sublist
    unfold prepareTarget
    dsimp only
    split
    · exact .ok _
    · refine (ensureDirectoriesWithin_arises _ _ _).mono fun fault arises => ?_
      exact arises.mono (hasNull_of_sublist leading) id fun deep =>
        deep.trans (leading.count_le '/')
  unfold writeTarget
  generalize world.prepareTarget redirection.target = answer at prepared ⊢
  obtain ⟨made, result⟩ := answer
  cases result with
  | error fault => exact .error (prepared fault rfl)
  | ok done =>
    have wrote : Only (Arises (hasNull redirection.target = true) False False)
        (made.writeFile redirection.target redirection.mode data) :=
      (request_arises _ _).map _
    dsimp only
    cases written : made.writeFile redirection.target redirection.mode data with
    | error fault => exact .error (wrote.of_zero id fault written)
    | ok after => exact .ok _

theorem writeTarget_outside (redirection : Redirection) (data : Bytes) :
    Outside (world.writeTarget redirection data).2 :=
  (world.writeTarget_arises redirection data).mono fun _ arises => arises.isOutside

end World

namespace Report

variable {allowed : Fault → Prop}

theorem only_andThen {first second : Report} (earlier : Only allowed first.result)
    (later : Only allowed second.result) : Only allowed (first.andThen second).result := by
  unfold andThen
  split
  · exact earlier
  · exact later.map _

theorem only_forEach {α : Type} {operands : List α} {report : α → Report}
    (each : ∀ operand ∈ operands, Only allowed (report operand).result) :
    Only allowed (forEach operands report).result := by
  induction operands with
  | nil => exact .ok _
  | cons operand operands ih =>
    refine only_andThen (each operand List.mem_cons_self) (ih ?_)
    intro later member
    exact each later (List.mem_cons_of_mem operand member)

end Report

namespace Builtin

theorem typeReport_completes (world : World) (path name : String) :
    Only (fun _ => False) (typeReport world path name).result := by
  unfold typeReport
  split <;> exact .ok _

theorem catReport_arises (world : World) (path : String) :
    Only (Arises (World.hasNull path = true) False False) (catReport world path).result := by
  have opened : Only (Arises (World.hasNull path = true) False False) (world.readFile path) :=
    World.request_arises _ _
  unfold catReport
  split
  · exact .ok _
  · exact .ok _
  · next fault _ refused => exact .error (opened fault refused)

theorem pwdReport_arises (world : World) :
    Only (Arises False False False) (pwdReport world).result := by
  unfold pwdReport
  split
  · exact .ok _
  · next fault refused => exact .error (world.workingDirectory_arises fault refused)

theorem cdRefusal_arises (target : String) (error : SystemError) :
    Only (Arises False False False) (cdRefusal target error).result := by
  unfold cdRefusal
  split
  · exact .ok _
  · exact .ok _
  · exact .ok _
  · exact .error (.system error)

theorem changeDirectory_arises (home : String) (arguments : List String) (machine : Machine) :
    Only (Arises (World.hasNull (cdPath home (cdTarget arguments)) = true) False False)
      (changeDirectory home arguments machine).2.result := by
  unfold changeDirectory
  dsimp only
  split
  · exact (cdRefusal_arises _ _).of_zero False.elim
  · next fault _ refused => exact .error (World.request_arises _ _ fault refused)
  · split
    · exact .ok _
    · next fault refused =>
      exact .error ((World.workingDirectory_arises _).of_zero False.elim fault refused)

/-- Where `cd` goes is the home directory or an argument. -/
theorem cdPath_cases (home : String) (arguments : List String) :
    cdPath home (cdTarget arguments) = home ∨ cdPath home (cdTarget arguments) ∈ arguments := by
  unfold cdPath
  split
  · exact .inl rfl
  · next other =>
    cases arguments with
    | nil => exact absurd rfl other
    | cons target rest => exact .inr List.mem_cons_self

theorem run_arises (builtin : Builtin) (settings : Settings) (arguments : List String)
    (machine : Machine) :
    Only (Arises (World.hasNull settings.home = true ∨
        ∃ argument ∈ arguments, World.hasNull argument = true) False False)
      (builtin.run settings arguments machine).2.result := by
  unfold run
  cases builtin with
  | type =>
    apply Report.only_forEach
    intro name member
    exact (typeReport_completes _ _ name).mono fun _ => False.elim
  | cat =>
    apply Report.only_forEach
    intro path member
    exact (catReport_arises _ path).of_zero fun held => .inr ⟨path, member, held⟩
  | pwd => exact (pwdReport_arises _).of_zero False.elim
  | cd =>
    apply (changeDirectory_arises _ _ _).of_zero
    intro held
    rcases cdPath_cases settings.home arguments with home | argument
    · exact .inl (home ▸ held)
    · exact .inr ⟨_, argument, held⟩
  | exit | echo | help | clear => exact .ok _

end Builtin

namespace Settings

def HoldsNull (settings : Settings) : Prop :=
  World.hasNull settings.home = true ∨
    ∃ entry ∈ settings.environment, World.hasNull entry.1 = true ∨ World.hasNull entry.2 = true

def Misnames (settings : Settings) : Prop := ∃ entry ∈ settings.environment, '=' ∈ entry.1.toList

end Settings

theorem Launch.load_arises (launch : Launch) (programs : Programs) (world : World)
    (busy : Option Location) :
    Only (Arises
        ((∃ candidate ∈ launch.candidates, World.hasNull candidate = true) ∨
          (∃ argument ∈ launch.argv, World.hasNull argument = true) ∨
          ∃ entry ∈ launch.environment, World.hasNull entry.1 = true ∨ World.hasNull entry.2 = true)
        (∃ entry ∈ launch.environment, '=' ∈ entry.1.toList) False)
      (launch.load programs world busy) := by
  unfold load
  split
  · next misnamed => exact .error (.variableName (by simpa using misnamed))
  split
  · next held => exact .error (.nullCharacter (by simpa [or_assoc] using held))
  · dsimp only
    generalize tryCandidates _ _ _ = answer
    cases answer with
    | ok program => exact .ok program
    | error cause => exact .error (.system _)

namespace Execution

/-- Aside from a name that stands for nothing, a command fails for the system, or for a text of the
session or the command that cannot be given to it. -/
theorem attempt_arises (settings : Settings) (command : CommandLine) (capture : Bool)
    (machine : Machine) :
    Only (fun fault => (∃ name, fault = .shell (.commandNotFound name) ∧
          machine.world.resolve command.name settings.path = .notFound name) ∨
        Arises (settings.HoldsNull ∨ ∃ word ∈ command.argv, World.hasNull word = true)
          settings.Misnames False fault)
      (attempt settings command capture machine).2.result := by
  unfold attempt
  cases resolved : machine.world.resolve command.name settings.path with
  | builtin builtin =>
    refine (Builtin.run_arises _ _ _ _).mono fun fault arises => .inr (arises.mono ?_ False.elim id)
    rintro (home | ⟨argument, member, held⟩)
    · exact .inl (.inl home)
    · exact .inr ⟨argument, List.mem_of_mem_tail member, held⟩
  | notFound name => exact .error (.inl ⟨name, rfl, rfl⟩)
  | program path =>
    dsimp only [attemptProgram]
    split
    · next fault refused =>
      have arises := Launch.load_arises _ _ _ _ fault (Launch.load_of_refused refused)
      refine .error (.inr (arises.mono ?_ id id))
      rintro (⟨candidate, member, held⟩ | argument | entry)
      · rcases Launch.hasNull_of_candidate member held with found | ⟨entry, member, held⟩
        · rw [launchOf, World.not_hasNull_of_program resolved] at found
          cases found
        · exact .inl (.inr ⟨entry, member, .inr held⟩)
      · exact .inr argument
      · exact .inl (.inr entry)
    · exact .ok _

/-- A command ends with an error of the shell itself only where its name stands for nothing. -/
theorem attempt_outside {settings : Settings} {command : CommandLine} {capture : Bool}
    {machine : Machine}
    (known : ∀ name, machine.world.resolve command.name settings.path ≠ .notFound name) :
    Outside (attempt settings command capture machine).2.result := by
  refine (attempt_arises _ _ _ _).mono ?_
  rintro fault (⟨name, -, missing⟩ | arises)
  · exact absurd missing (known name)
  · exact arises.isOutside

end Execution

end CommandShell
