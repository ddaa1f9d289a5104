import CommandShell.Proofs.CommandFaults

/-! What builtins make of refused requests. Each refusal is told on the error stream with the name
of the operand, and the status is not zero. A few refusals lapse and end the command instead: that
a working directory has no path any more, and that `cd` meets a name too long or too many links. -/

namespace CommandShell

inductive SystemCause.OfWalk : SystemCause → Prop where
  | noSuchEntry : OfWalk .noSuchEntry
  | notDirectory : OfWalk .notDirectory
  | nameTooLong : OfWalk .nameTooLong
  | tooManyLinks : OfWalk .tooManyLinks

namespace FileSystem

variable {files : FileSystem} {cause : SystemCause}
  {jump : Bool → Place → List String → Except SystemCause Found}

theorem walkUntilLink_refused
    (followed : ∀ slash place names, jump slash place names = .error cause → cause.OfWalk)
    {slash : Bool} {place : Place} {names : List String}
    (refused : files.walkUntilLink .entry jump slash place names = .error cause) : cause.OfWalk := by
  induction names generalizing place with
  | nil => cases refused
  | cons name rest ih =>
    simp only [walkUntilLink, reduceCtorEq, decide_false, Bool.and_false, Bool.false_eq_true,
      if_false] at refused
    split at refused
    · exact ih refused
    split at refused
    · exact ih refused
    split at refused
    · cases refused
      exact .nameTooLong
    split at refused
    · split at refused
      · cases refused
      · cases refused
        exact .noSuchEntry
    · exact ih refused
    · split at refused
      · unfold atFile at refused
        split at refused
        · cases refused
          exact .notDirectory
        · cases refused
      · cases refused
        exact .notDirectory
    · split at refused
      · exact followed _ _ _ refused
      · exact followed _ _ _ refused

theorem walkWithin_refused (budget : Nat) {slash : Bool} {place : Place} {names : List String}
    (refused : files.walkWithin .entry budget slash place names = .error cause) : cause.OfWalk := by
  induction budget generalizing slash place names with
  | zero =>
    refine walkUntilLink_refused ?_ refused
    intro slash place names jumped
    cases jumped
    exact .tooManyLinks
  | succ budget ih => exact walkUntilLink_refused (fun _ _ _ => ih) refused

theorem walk_refused {start : Place} {text : String}
    (refused : files.walk start text .entry = .error cause) : cause.OfWalk := by
  unfold walk at refused
  split at refused
  · cases refused
    exact .noSuchEntry
  split at refused
  · cases refused
    exact .nameTooLong
  · exact walkWithin_refused maxLinks refused

end FileSystem

namespace World

variable {world : World} {path : String} {error : SystemError}

theorem request_refused {α : Type} {answer : Except SystemCause α}
    (refused : request path answer = .error (.system error)) :
    answer = .error error.cause ∧ error.path = some path := by
  unfold request at refused
  split at refused
  · cases refused
  · cases answer with
    | ok value => cases refused
    | error cause =>
      cases refused
      exact ⟨rfl, rfl⟩

/-- All that can keep the shell from entering a directory. -/
theorem changeDirectory_refused (refused : world.changeDirectory path = .error (.system error)) :
    error.path = some path ∧ (error.cause = .accessDenied ∨ error.cause.OfWalk) := by
  obtain ⟨answered, named⟩ := request_refused refused
  refine ⟨named, ?_⟩
  split at answered
  · exact .inl (Except.error.inj answered).symm
  split at answered
  · next cause stopped =>
    obtain rfl := Except.error.inj answered
    exact .inr (FileSystem.walk_refused stopped)
  · cases answered
  · rw [← Except.error.inj answered]
    exact .inr .notDirectory
  · rw [← Except.error.inj answered]
    exact .inr .noSuchEntry
  · rw [← Except.error.inj answered]
    exact .inr .noSuchEntry

theorem workingDirectory_refused (refused : world.workingDirectory = .error (.system error)) :
    world.directory.isLive = false ∧ error = ⟨.noSuchEntry, none⟩ := by
  unfold workingDirectory at refused
  split at refused
  · cases refused
  · next lost =>
    cases refused
    exact ⟨by simpa using lost, rfl⟩

end World

def Fault.systemError? {α : Type} : Except Fault α → Option SystemError
  | .error (.system error) => some error
  | _ => none

namespace Builtin

/-- What a builtin gives as the reason of a refusal. To `cd` a file is no directory at all. -/
def toldReason : Builtin → SystemCause → String
  | .cd, .notDirectory => SystemCause.noSuchEntry.reason
  | _, cause => cause.reason

def complaint (builtin : Builtin) (refusal : String × SystemError) : Bytes :=
  Bytes.ofText
    (builtin.name ++ ": " ++ refusal.1 ++ ": " ++ builtin.toldReason refusal.2.cause ++ "\n")

def refusals (builtin : Builtin) (world : World) (home : String) (arguments : List String) :
    List (String × SystemError) :=
  match builtin with
  | .cat => arguments.flatMap fun path =>
      ((Fault.systemError? (world.readFile path)).map (path, ·)).toList
  | .cd => ((Fault.systemError? (world.changeDirectory (cdPath home (cdTarget arguments)))).map
      (cdTarget arguments, ·)).toList
  | _ => []

/-- Whether a report that completes has a complaint about each refusal and nothing else on the
error stream, and a status other than zero if there is any. -/
def Tells (builtin : Builtin) (refused : List (String × SystemError)) (report : Report) : Prop :=
  ∀ status, report.result = .ok status →
    report.errors = refused.flatMap builtin.complaint ∧ (refused ≠ [] → status ≠ 0)

/-- Refusals that no message is made of. -/
inductive Lapses (world : World) (home : String) (arguments : List String) :
    Builtin → SystemError → Prop where
  | pwd (lost : world.directory.isLive = false) :
      Lapses world home arguments .pwd ⟨.noSuchEntry, none⟩
  | cd {cause : SystemCause} (unnamed : cause = .nameTooLong ∨ cause = .tooManyLinks)
      (refused : world.changeDirectory (cdPath home (cdTarget arguments)) =
        .error (.system ⟨cause, some (cdPath home (cdTarget arguments))⟩)) :
      Lapses world home arguments .cd ⟨cause, some (cdPath home (cdTarget arguments))⟩
  | cdLost {entered : World}
      (moved : world.changeDirectory (cdPath home (cdTarget arguments)) = .ok entered)
      (lost : entered.directory.isLive = false) :
      Lapses world home arguments .cd ⟨.noSuchEntry, none⟩

section Tells

variable {builtin : Builtin} {first second : Report} {refused more : List (String × SystemError)}

theorem Tells.nothing (output : Bytes) (status : Int) :
    builtin.Tells [] { output, result := .ok status } := by
  intro own completed
  exact ⟨rfl, fun told => absurd rfl told⟩

theorem Tells.of_fault (fault : Fault) : builtin.Tells refused (.ofFault fault) := by
  intro status completed
  cases completed

theorem Tells.single (refusal : String × SystemError) {text : String}
    (told : Bytes.ofText text = builtin.complaint refusal) :
    builtin.Tells [refusal] (.ofError text 1) := by
  intro status completed
  cases completed
  refine ⟨?_, fun _ => by decide⟩
  rw [Report.ofError, told, List.flatMap_singleton]

theorem Tells.andThen (earlier : builtin.Tells refused first) (later : builtin.Tells more second) :
    builtin.Tells (refused ++ more) (first.andThen second) := by
  intro status completed
  unfold Report.andThen at completed ⊢
  cases ended : first.result with
  | error fault =>
    rw [ended] at completed
    cases ended.symm.trans completed
  | ok own =>
    rw [ended] at completed
    dsimp only at completed ⊢
    cases followed : second.result with
    | error fault =>
      rw [followed] at completed
      cases completed
    | ok next =>
      rw [followed] at completed
      obtain rfl := Except.ok.inj completed
      obtain ⟨errors, failed⟩ := earlier own ended
      obtain ⟨further, alsoFailed⟩ := later next followed
      refine ⟨by rw [errors, further, List.flatMap_append], ?_⟩
      intro told
      split
      · next fine =>
        apply alsoFailed
        rintro rfl
        exact failed (by simpa using told) fine
      · next bad => exact bad

theorem Tells.forEach {report : String → Report} {told : String → List (String × SystemError)}
    (each : ∀ operand, builtin.Tells (told operand) (report operand)) (operands : List String) :
    builtin.Tells (operands.flatMap told) (.forEach operands report) := by
  induction operands with
  | nil => exact .nothing [] 0
  | cons operand later ih => exact (each operand).andThen ih

end Tells

theorem typeReport_tells (world : World) (path name : String) :
    Tells .type [] (typeReport world path name) := by
  unfold typeReport
  split <;> exact .nothing _ _

theorem catReport_tells (world : World) (path : String) :
    Tells .cat ((Fault.systemError? (world.readFile path)).map (path, ·)).toList
      (catReport world path) := by
  unfold catReport
  split
  · next data opened =>
    rw [opened]
    exact .nothing data 0
  · next error refused =>
    rw [refused]
    apply Tells.single (path, error)
    have same : "cat: " = "cat" ++ ": " := rfl
    simp only [same, complaint, toldReason, name]
  · next fault other refused =>
    exact .of_fault fault

theorem catReport_no_system (world : World) (path : String) :
    Fault.Only (fun fault => ∀ error, fault ≠ .system error) (catReport world path).result := by
  unfold catReport
  split
  · exact .ok _
  · exact .ok _
  · next fault other refused =>
    apply Fault.Only.error
    exact other

theorem pwdReport_lapses {world : World} {home : String} {arguments : List String}
    {error : SystemError} : (pwdReport world).result = .error (.system error) ↔
      Lapses world home arguments .pwd error := by
  unfold pwdReport
  constructor
  · intro ended
    split at ended
    · cases ended
    · next fault lost =>
      cases ended
      obtain ⟨gone, rfl⟩ := World.workingDirectory_refused lost
      exact .pwd gone
  · intro lapses
    cases lapses with
    | pwd lost =>
      simp only [World.workingDirectory, lost]
      rfl

section ChangeDirectory

variable {machine : Machine} {home : String} {arguments : List String} {error : SystemError}

theorem cdRefusal_unnamed {target : String} {fault : Fault}
    (allowed : error.cause = .accessDenied ∨ error.cause.OfWalk)
    (ended : (cdRefusal target error).result = .error fault) :
    fault = .system error ∧ (error.cause = .nameTooLong ∨ error.cause = .tooManyLinks) := by
  unfold cdRefusal at ended
  split at ended
  · cases ended
  · cases ended
  · cases ended
  · next missing file denied =>
    refine ⟨(Except.error.inj ended).symm, ?_⟩
    generalize error.cause = cause at *
    rcases allowed with same | walk
    · exact absurd same denied
    cases walk with
    | noSuchEntry => exact absurd rfl missing
    | notDirectory => exact absurd rfl file
    | nameTooLong => exact .inl rfl
    | tooManyLinks => exact .inr rfl

theorem changeDirectory_lapses :
    (changeDirectory home arguments machine).2.result = .error (.system error) ↔
      Lapses machine.world home arguments .cd error := by
  unfold changeDirectory
  dsimp only
  constructor
  · intro ended
    split at ended
    · next refusal refused =>
      obtain ⟨named, allowed⟩ := World.changeDirectory_refused refused
      obtain ⟨same, unnamed⟩ := cdRefusal_unnamed allowed ended
      cases same
      obtain ⟨cause, path⟩ := error
      obtain rfl : path = _ := named
      exact .cd unnamed refused
    · next fault other refused =>
      cases ended
      exact absurd rfl (other error)
    · next world moved =>
      split at ended
      · cases ended
      · next fault lost =>
        cases ended
        obtain ⟨gone, rfl⟩ := World.workingDirectory_refused lost
        exact .cdLost moved gone
  · intro lapses
    cases lapses with
    | cd unnamed refused =>
      rw [refused]
      rcases unnamed with rfl | rfl <;> rfl
    | cdLost moved lost =>
      simp only [moved, World.workingDirectory, lost]
      rfl

theorem cdRefusal_tells (target : String) (error : SystemError) :
    Tells .cd [(target, error)] (cdRefusal target error) := by
  have same : "cd: " = "cd" ++ ": " := rfl
  have missing : ": No such file or directory\n" =
    ": " ++ SystemCause.noSuchEntry.reason ++ "\n" := rfl
  have denied : ": Permission denied\n" = ": " ++ SystemCause.accessDenied.reason ++ "\n" := rfl
  unfold cdRefusal
  split
  · next cause =>
    apply Tells.single
    simp only [same, missing, complaint, cause, toldReason, name, String.append_assoc]
  · next cause =>
    apply Tells.single
    simp only [same, missing, complaint, cause, toldReason, name, String.append_assoc]
  · next cause =>
    apply Tells.single
    simp only [same, denied, complaint, cause, toldReason, name, String.append_assoc]
  · exact .of_fault _

theorem changeDirectory_tells :
    Tells .cd (refusals .cd machine.world home arguments) (changeDirectory home arguments machine).2 := by
  unfold changeDirectory refusals
  dsimp only
  split
  · next error refused =>
    rw [refused]
    exact cdRefusal_tells _ error
  · exact .of_fault _
  · next world moved =>
    rw [moved]
    split
    · exact .nothing [] 0
    · exact .of_fault _

theorem changeDirectory_failed {status : Int}
    (completed : (changeDirectory home arguments machine).2.result = .ok status)
    (failed : status ≠ 0) : (changeDirectory home arguments machine).1 = machine := by
  unfold changeDirectory at completed ⊢
  dsimp only at completed ⊢
  split
  · rfl
  · rfl
  · next world moved =>
    rw [moved] at completed
    dsimp only at completed
    split at completed
    · cases completed
      exact absurd rfl failed
    · cases completed

end ChangeDirectory

/-- A builtin ends with an error of the system exactly where a refusal lapses. -/
theorem perform_lapses (builtin : Builtin) (settings : Settings) (arguments : List String)
    (machine : Machine) (error : SystemError) :
    (builtin.perform settings arguments machine).2.result = .error (.system error) ↔
      Lapses machine.world settings.home arguments builtin error := by
  cases builtin with
  | cd => exact changeDirectory_lapses
  | pwd => exact pwdReport_lapses
  | cat =>
    have only : Fault.Only (fun fault => ∀ error, fault ≠ .system error)
        (Report.forEach arguments (catReport machine.world)).result :=
      Report.only_forEach fun path _ => catReport_no_system _ path
    constructor
    · intro ended
      exact absurd rfl (only _ ended error)
    · intro lapses
      cases lapses
  | type =>
    have only : Fault.Only (fun _ => False)
        (Report.forEach arguments (typeReport machine.world
          (settings.searchPath (some settings.path)))).result :=
      Report.only_forEach fun name _ => typeReport_completes _ _ name
    constructor
    · intro ended
      exact (only _ ended).elim
    · intro lapses
      cases lapses
  | exit | echo | help | clear =>
    constructor
    · intro ended
      cases ended
    · intro lapses
      cases lapses

theorem perform_tells (builtin : Builtin) (settings : Settings) (arguments : List String)
    (machine : Machine) :
    builtin.Tells (builtin.refusals machine.world settings.home arguments)
      (builtin.perform settings arguments machine).2 := by
  cases builtin with
  | cd => exact changeDirectory_tells
  | cat => exact .forEach (catReport_tells machine.world) arguments
  | pwd =>
    unfold perform pwdReport
    dsimp only
    split
    · exact .nothing _ 0
    · exact .of_fault _
  | type =>
    have told := Tells.forEach
      (typeReport_tells machine.world (settings.searchPath (some settings.path))) arguments
    rw [List.flatMap_eq_nil_iff.mpr fun _ _ => rfl] at told
    exact told
  | exit | echo | help | clear => exact .nothing _ 0

/-- Refusals of the system are told by builtins, but for those that lapse. A builtin completes unless
a refusal lapses, or a text for the system holds the character zero. -/
theorem run_tells_refusals (builtin : Builtin) (settings : Settings) (arguments : List String)
    (machine : Machine) :
    let ready := (machine.emit (builtin.record arguments)).world
    let (after, report) := builtin.run settings arguments machine
    (∀ error, report.result = .error (.system error) ↔
      Lapses ready settings.home arguments builtin error) ∧
    (∀ fault, report.result = .error fault → (∃ error, fault = .system error) ∨
      fault = .nullCharacter ∧ (World.hasNull settings.home = true ∨
        ∃ argument ∈ arguments, World.hasNull argument = true)) ∧
    builtin.Tells (builtin.refusals ready settings.home arguments) report ∧
    ∀ status, builtin = .cd → report.result = .ok status → status ≠ 0 →
      after.world.directory = machine.world.directory := by
  refine ⟨fun error => perform_lapses builtin settings arguments _ error, ?_,
    perform_tells builtin settings arguments _, ?_⟩
  · intro fault ended
    cases run_arises builtin settings arguments machine fault ended with
    | system error => exact .inl ⟨error, rfl⟩
    | nullCharacter held => exact .inr ⟨rfl, held⟩
    | variableName held => exact held.elim
    | targetTooDeep far => exact far.elim
  · rintro status rfl completed failed
    have same := changeDirectory_failed completed failed
    exact (congrArg (·.world.directory) same).trans (machine.emit_stays _).directory

def machineWithLoop : Machine :=
  { world := ⟨{ owned := [], entries := [((1, ["loop"]), .link "loop")] }, .root⟩ }

/-- A link that leads back to itself cannot be entered, and no message is made of it. -/
theorem run_lapses_loop : (Builtin.cd.run {} ["loop"] machineWithLoop).2.result =
    .error (.system ⟨.tooManyLinks, some "loop"⟩) := by decide +kernel

end Builtin

end CommandShell
