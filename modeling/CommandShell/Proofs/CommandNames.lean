import CommandShell.Proofs.Listings
import CommandShell.Proofs.RedirectedRuns
import CommandShell.Proofs.LineRuns
import CommandShell.Session

/-! The names that completion offers beside what they stand for. Completion lists directories and
looks at the execute bit, and a lookup asks for one file after another and does not look at it. So a
name that is offered is always known, but the file that is started may be another one than the one
offered, and one that cannot be executed. -/

namespace CommandShell

theorem Text.exists_field_of_mem {α : Type} [DecidableEq α] {separator item : α} {items : List α}
    (member : item ∈ items) (other : item ≠ separator) :
    ∃ field ∈ fields separator items, item ∈ field := by
  induction items with
  | nil => cases member
  | cons first rest ih =>
    rw [fields]
    split
    · next same =>
      obtain ⟨field, inside, held⟩ := ih (List.mem_of_ne_of_mem (same ▸ other) member)
      exact ⟨field, List.mem_cons_of_mem _ inside, held⟩
    · split
      · next empty => exact absurd empty (fields_ne_nil separator rest)
      · next head later divided =>
        rw [divided] at ih
        rcases List.mem_cons.mp member with rfl | inner
        · exact ⟨item :: head, List.mem_cons_self, List.mem_cons_self⟩
        obtain ⟨field, inside, held⟩ := ih inner
        rcases List.mem_cons.mp inside with rfl | behind
        · exact ⟨first :: field, List.mem_cons_self, List.mem_cons_of_mem _ held⟩
        · exact ⟨field, List.mem_cons_of_mem _ behind, held⟩

/-- The character zero is in a search path just where it is in one of its directories. -/
theorem hasNull_searchDirectories (path : String) : World.hasNull path = false ↔
    ∀ directory ∈ searchDirectories path, World.hasNull directory = false := by
  have zero : (∃ directory ∈ searchDirectories path, World.hasNull directory = true) ↔
      World.hasNull path = true := by
    simp only [World.hasNull_iff, searchDirectories, Text.filledFields, List.mem_map,
      List.mem_filter]
    constructor
    · rintro ⟨directory, ⟨field, ⟨inside, -⟩, rfl⟩, held⟩
      rw [String.toList_ofList] at held
      exact Text.mem_of_mem_fields inside held
    · intro held
      obtain ⟨field, inside, member⟩ := Text.exists_field_of_mem held (by decide : '\x00' ≠ ':')
      refine ⟨String.ofList field, ⟨field, ⟨inside, ?_⟩, rfl⟩, ?_⟩
      · cases field with
        | nil => cases member
        | cons => rfl
      · rwa [String.toList_ofList]
  rw [← Bool.not_eq_true, ← zero]
  simp

namespace World

structure Offers (world : World) (directory name : String) : Prop where
  listed : ∃ names, world.listDirectory directory = .ok names
  isName : Path.IsName name
  runs : world.isExecutableFile (Path.join directory name) = true

/-- Whether a directory is the first one that holds a file of a name. `later` are the directories
after it. -/
structure FirstHolder (world : World) (name : String) (directories : List String)
    (directory : String) (later : List String) : Prop where
  divided : ∃ earlier, directories = earlier ++ directory :: later ∧
    ∀ other ∈ earlier, world.isFile (Path.join other name) = false
  holds : world.isFile (Path.join directory name) = true

variable {world : World} {directory name path : String} {directories later names : List String}

theorem isFile_of_isExecutableFile (runs : world.isExecutableFile path = true) :
    world.isFile path = true := by
  unfold isExecutableFile at runs
  unfold isFile
  rw [Bool.and_eq_true] at runs ⊢
  obtain ⟨proper, held⟩ := runs
  refine ⟨proper, ?_⟩
  split at held
  · rfl
  · cases held

theorem isName_of_listed (named : world.files.IsNamed)
    (listed : world.listDirectory directory = .ok names) (member : name ∈ names) :
    Path.IsName name := by
  obtain ⟨place, -, rfl⟩ := listDirectory_ok listed
  split at member
  · exact named.of_mem_namesIn member
  · cases member

theorem mem_programsIn (named : world.files.IsNamed)
    (found : world.programsIn directory = .ok names) :
    name ∈ names ↔ world.Offers directory name := by
  unfold programsIn at found
  cases listed : world.listDirectory directory with
  | error fault =>
    rw [listed] at found
    cases found
  | ok all =>
    rw [listed] at found
    obtain rfl := Except.ok.inj found
    rw [List.mem_filter]
    constructor
    · rintro ⟨member, runs⟩
      exact ⟨⟨all, listed⟩, isName_of_listed named listed member, runs⟩
    · intro offers
      exact ⟨mem_of_listed listed offers.isName offers.runs, offers.runs⟩

theorem not_offers_of_refused {fault : Fault} (refused : world.programsIn directory = .error fault) :
    ¬world.Offers directory name := by
  rintro ⟨⟨all, listed⟩, -, -⟩
  rw [programsIn, listed] at refused
  cases refused

theorem programsIn_of_null (world : World) (held : hasNull directory = true) :
    world.programsIn directory = .error .nullCharacter := by
  rw [programsIn, listDirectory, requestToOpen, request, if_pos held]
  rfl

/-- A directory whose path can be given to the system is listed, or the system refuses that. -/
theorem programsIn_of_proper (world : World) (proper : hasNull directory = false) :
    (∃ names, world.programsIn directory = .ok names) ∨
      ∃ error, world.programsIn directory = .error (.system error) := by
  rw [programsIn, listDirectory, requestToOpen, request, if_neg (by simp [proper])]
  generalize (if world.denies directory then _ else _) = answer
  cases answer with
  | ok all => exact .inl ⟨_, rfl⟩
  | error cause => exact .inr ⟨_, rfl⟩

theorem programsAlong_cons (later : List String) (found : world.programsIn directory = .ok names) :
    (world.programsAlong (directory :: later)).2 =
      (world.programsAlong later).2.map (names ++ ·) := by
  rw [programsAlong, found]

theorem programsAlong_skipped {error : SystemError} (later : List String)
    (refused : world.programsIn directory = .error (.system error)) :
    (world.programsAlong (directory :: later)).2 = (world.programsAlong later).2 := by
  rw [programsAlong, refused]

theorem programsAlong_of_proper (world : World)
    (proper : ∀ directory ∈ directories, hasNull directory = false) :
    ∃ names, (world.programsAlong directories).2 = .ok names := by
  induction directories with
  | nil => exact ⟨[], rfl⟩
  | cons directory later ih =>
    obtain ⟨first, others⟩ := List.forall_mem_cons.mp proper
    obtain ⟨names, found⟩ := ih others
    obtain ⟨listed, here⟩ | ⟨error, refused⟩ := programsIn_of_proper world first
    · exact ⟨listed ++ names, by rw [programsAlong_cons later here, found]; rfl⟩
    · exact ⟨names, by rw [programsAlong_skipped later refused, found]⟩

theorem programsAlong_of_null (world : World) (held : hasNull directory = true)
    (member : directory ∈ directories) :
    (world.programsAlong directories).2 = .error .nullCharacter := by
  induction directories with
  | nil => cases member
  | cons first later ih =>
    cases proper : hasNull first with
    | true => rw [programsAlong, programsIn_of_null world proper]
    | false =>
      have inner : directory ∈ later := by
        rcases List.mem_cons.mp member with rfl | inner
        · rw [held] at proper
          cases proper
        · exact inner
      obtain ⟨listed, here⟩ | ⟨error, refused⟩ := programsIn_of_proper world proper
      · rw [programsAlong_cons later here, ih inner]
        rfl
      · rw [programsAlong_skipped later refused, ih inner]

/-- The programs along directories are those in any of them, whatever order they come in. -/
theorem mem_programsAlong_iff (found : (world.programsAlong directories).2 = .ok names) :
    name ∈ names ↔ ∃ directory ∈ directories, ∃ programs,
      world.programsIn directory = .ok programs ∧ name ∈ programs := by
  induction directories generalizing names with
  | nil =>
    obtain rfl := Except.ok.inj found
    simp
  | cons directory later ih =>
    simp only [List.mem_cons, exists_eq_or_imp]
    cases proper : hasNull directory with
    | true =>
      rw [programsAlong_of_null world proper List.mem_cons_self] at found
      cases found
    | false =>
      obtain ⟨listed, here⟩ | ⟨error, refused⟩ := programsIn_of_proper world proper
      · rw [programsAlong_cons later here] at found
        cases rest : (world.programsAlong later).2 with
        | error fault =>
          rw [rest] at found
          cases found
        | ok others =>
          rw [rest] at found
          obtain rfl := Except.ok.inj found
          rw [List.mem_append, ih rest, here]
          simp
      · rw [programsAlong_skipped later refused] at found
        rw [ih found, refused]
        simp

theorem mem_programsAlong (named : world.files.IsNamed)
    (found : (world.programsAlong directories).2 = .ok names) :
    name ∈ names ↔ ∃ directory ∈ directories, world.Offers directory name := by
  rw [mem_programsAlong_iff found]
  constructor
  · rintro ⟨directory, member, programs, here, inside⟩
    exact ⟨directory, member, (mem_programsIn named here).mp inside⟩
  · rintro ⟨directory, member, offers⟩
    cases here : world.programsIn directory with
    | error fault => exact absurd offers (not_offers_of_refused here)
    | ok programs => exact ⟨directory, member, programs, here, (mem_programsIn named here).mpr offers⟩

/-- All names can be told just where the search path can be given to the system. -/
theorem commandNames_ok_iff (world : World) (path : String) :
    (∃ names, (world.commandNames path).2 = .ok names) ↔ hasNull path = false := by
  rw [commandNames_eq, hasNull_searchDirectories]
  constructor
  · rintro ⟨names, found⟩ directory member
    by_contra held
    rw [programsAlong_of_null world (by simpa using held) member] at found
    cases found
  · intro proper
    obtain ⟨names, found⟩ := programsAlong_of_proper world proper
    exact ⟨Builtin.names ++ names, by rw [found]; rfl⟩

theorem mem_commandNames (named : world.files.IsNamed)
    (found : (world.commandNames path).2 = .ok names) :
    name ∈ names ↔ name ∈ Builtin.names ∨
      ∃ directory ∈ searchDirectories path, world.Offers directory name := by
  rw [commandNames_eq] at found
  cases rest : (world.programsAlong (searchDirectories path)).2 with
  | error fault =>
    rw [rest] at found
    cases found
  | ok others =>
    rw [rest] at found
    obtain rfl := Except.ok.inj found
    rw [List.mem_append, mem_programsAlong named rest]

theorem findAlong_of_firstHolder (first : world.FirstHolder name directories directory later) :
    world.findAlong name directories = some (Path.join directory name) := by
  obtain ⟨⟨earlier, rfl, free⟩, holds⟩ := first
  rw [findAlong, List.find?_eq_some_iff_append]
  refine ⟨holds, earlier.map (Path.join · name), later.map (Path.join · name), by simp, ?_⟩
  simpa using free

theorem exists_firstHolder
    (holds : ∃ directory ∈ directories, world.isFile (Path.join directory name) = true) :
    ∃ directory later, world.FirstHolder name directories directory later := by
  cases found : directories.find? fun directory => world.isFile (Path.join directory name) with
  | none =>
    obtain ⟨directory, member, file⟩ := holds
    exact absurd file (List.find?_eq_none.mp found directory member)
  | some directory =>
    obtain ⟨file, earlier, later, divided, free⟩ := List.find?_eq_some_iff_append.mp found
    exact ⟨directory, later, ⟨earlier, divided, by simpa using free⟩, file⟩

theorem resolve_of_firstHolder (unnamed : name ∉ Builtin.names) (isName : Path.IsName name)
    (first : world.FirstHolder name (searchDirectories path) directory later) :
    world.resolve name path = .program (Path.join directory name) := by
  have foreign : Builtin.ofName? name = none := by
    rw [Builtin.ofName?, List.find?_eq_none]
    intro builtin member same
    apply unnamed
    rw [Builtin.names, List.mem_map]
    exact ⟨builtin, member, by simpa using same⟩
  have bare : name.toList.contains '/' = false := by simpa using isName.bare
  simp only [resolve, foreign, bare, Bool.false_eq_true, if_false, findProgram,
    findAlong_of_firstHolder first]

theorem exists_resolve_of_builtin (world : World) (path : String) (named : name ∈ Builtin.names) :
    ∃ builtin, world.resolve name path = .builtin builtin := by
  rw [Builtin.names, List.mem_map] at named
  obtain ⟨builtin, -, rfl⟩ := named
  refine ⟨builtin, resolve_eq_builtin.mpr ?_⟩
  cases builtin <;> rfl

/-- The first file of a name that is offered lacks the execute bit just where one that has it is
offered by a directory behind. -/
theorem not_isExecutableFile_iff (offered : ∃ other ∈ directories, world.Offers other name)
    (first : world.FirstHolder name directories directory later) :
    world.isExecutableFile (Path.join directory name) = false ↔
      ∃ holder behind other, world.FirstHolder name directories holder behind ∧
        world.isExecutableFile (Path.join holder name) = false ∧ other ∈ behind ∧
        world.Offers other name := by
  constructor
  · intro lacks
    obtain ⟨other, member, offers⟩ := offered
    refine ⟨directory, later, other, first, lacks, ?_, offers⟩
    obtain ⟨⟨earlier, rfl, free⟩, -⟩ := first
    rcases List.mem_append.mp member with before | inner
    · have file := isFile_of_isExecutableFile offers.runs
      rw [free other before] at file
      cases file
    rcases List.mem_cons.mp inner with rfl | behind
    · rw [offers.runs] at lacks
      cases lacks
    · exact behind
  · rintro ⟨holder, behind, other, also, lacks, -⟩
    have same := (findAlong_of_firstHolder first).symm.trans (findAlong_of_firstHolder also)
    rwa [Option.some.inj same]

end World

namespace Path

theorem dropEndSlashes_ne_nil {chars : List Char} (filled : chars ≠ []) :
    dropEndSlashes chars ≠ [] := by
  unfold dropEndSlashes
  split
  · exact filled
  · next mixed =>
    intro empty
    apply mixed
    rw [List.reverse_eq_nil_iff, List.dropWhile_eq_nil_iff] at empty
    simpa using empty

theorem directoryPart_join_ne {directory name : String} (named : directory ≠ "")
    (bare : '/' ∉ name.toList) : directoryPart (join directory name) ≠ "" := by
  obtain ⟨before, divided, -⟩ := join_divided named bare
  have plain : ∀ char ∈ name.toList.reverse, decide (char ≠ '/') = true := by
    intro char member
    rw [decide_eq_true_iff]
    rintro rfl
    exact bare (List.mem_reverse.mp member)
  have outer : ((join directory name).toList.reverse.dropWhile (· ≠ '/')).reverse =
      before ++ ['/'] := by
    rw [divided, List.reverse_append, List.reverse_cons, List.append_assoc,
      List.dropWhile_append_of_pos plain]
    simp
  rw [directoryPart, cut]
  dsimp only
  rw [outer, ne_eq, String.ofList_eq_empty_iff]
  exact dropEndSlashes_ne_nil (by simp)

end Path

namespace Launch

variable {launch : Launch} {programs : Programs} {world : World} {busy : Option Location}

/-- Whether the system takes all texts that a program is started with, aside from its path. -/
structure IsProper (argv : List String) (environment : Environment) : Prop where
  argv : ∀ argument ∈ argv, World.hasNull argument = false
  names : ∀ entry ∈ environment, '=' ∉ entry.1.toList ∧ World.hasNull entry.1 = false
  values : ∀ entry ∈ environment, World.hasNull entry.2 = false

theorem candidates_of_directory (directed : Path.directoryPart launch.executable ≠ "") :
    launch.candidates = [launch.executable] := by
  rw [candidates, if_pos directed]

/-- A file without the execute bit is refused. -/
theorem load_refused (proper : IsProper launch.argv launch.environment)
    (directed : Path.directoryPart launch.executable ≠ "")
    (holds : world.isFile launch.executable = true)
    (lacks : world.isExecutableFile launch.executable = false) :
    launch.load programs world busy =
      .error (.system ⟨.accessDenied, some launch.executable⟩) := by
  have free : World.hasNull launch.executable = false := by
    simp only [World.isFile, Bool.and_eq_true, Bool.not_eq_true'] at holds
    exact holds.1
  have misnamed : (launch.environment.any fun entry => entry.1.toList.contains '=') = false := by
    rw [List.any_eq_false]
    intro entry member
    simpa using (proper.names entry member).1
  have held : (launch.candidates.any World.hasNull || launch.argv.any World.hasNull ||
      launch.environment.any (fun entry => World.hasNull entry.1 || World.hasNull entry.2)) =
        false := by
    rw [candidates_of_directory directed, Bool.or_eq_false_iff, Bool.or_eq_false_iff,
      List.any_eq_false, List.any_eq_false, List.any_eq_false]
    refine ⟨⟨by simp [free], ?_⟩, ?_⟩
    · intro argument member
      simp [proper.argv argument member]
    · intro entry member
      simp [(proper.names entry member).2, proper.values entry member]
  have refused : programFile ⟨programs, world, launch.environment, busy⟩ launch.executable =
      .error .accessDenied := by
    simp only [World.isFile, World.isExecutableFile, free, Bool.not_false, Bool.true_and]
      at holds lacks
    unfold programFile
    dsimp only
    split at holds
    · next location file found =>
      simp only [found] at lacks ⊢
      simp [lacks]
    · cases holds
  rw [load, misnamed, held]
  simp only [Bool.false_eq_true, if_false, candidates_of_directory directed, tryCandidates, attempt,
    refused]
  rfl

end Launch

theorem Report.andThen_nothing (report : Report) : report.andThen {} = report := by
  obtain ⟨output, errors, result⟩ := report
  cases result with
  | error fault => rfl
  | ok status =>
    have kept : (if status = 0 then 0 else status) = status := by
      split
      · next zero => exact zero.symm
      · rfl
    simp [Report.andThen, Except.map, kept]

namespace Execution

variable {settings : Settings} {name path : String} {arguments : List String}
  {redirection : Option Redirection} {machine : Machine}

/-- A command whose name stands for something does not end as one whose name does not. -/
theorem run_known {command : CommandLine} (named : command.argv ≠ [])
    (known : ∀ missing, machine.world.resolve command.name settings.path ≠ .notFound missing)
    (missing : String) :
    ((run settings command).on machine).1 ≠ .error (.shell (.commandNotFound missing)) := by
  obtain ⟨argv, redirection⟩ := command
  intro failed
  cases redirection with
  | none =>
    obtain ⟨after, ran, -⟩ := run_direct settings machine named
    rw [ran] at failed
    exact attempt_outside known _ failed
  | some redirection =>
    have outside : Fault.Outside (attempt settings ⟨argv, some redirection⟩ true machine).2.result :=
      attempt_outside known
    rcases attempted : attempt settings ⟨argv, some redirection⟩ true machine with ⟨done, report⟩
    rw [attempted] at outside
    cases ended : report.result with
    | error fault =>
      rw [run_redirected_failed named attempted ended] at failed
      obtain rfl := Except.error.inj failed
      exact outside _ ended
    | ok status =>
      obtain ⟨outcome, rfl⟩ := Report.of_completed ended
      rw [run_redirected named attempted] at failed
      split at failed
      · next fault refused =>
        have foreign := World.writeTarget_outside _ _ _ fault refused
        cases fault with
        | shell error => exact foreign
        | _ => cases failed
      · cases failed

/-- A program that cannot be started gives the status of that. -/
theorem execute_refused {error : SystemError}
    (resolved : machine.world.resolve name settings.path = .program path)
    (refused : (launchOf settings ⟨name :: arguments, redirection⟩ path).load settings.programs
      machine.world machine.logger.openFile? = .error (.system error)) :
    ∃ after, (execute settings ⟨name :: arguments, redirection⟩).on machine = (.ok 126, after) := by
  have named : (CommandLine.mk (name :: arguments) redirection).argv ≠ [] := List.cons_ne_nil _ _
  have attempted (capture : Bool) :
      (attempt settings ⟨name :: arguments, redirection⟩ capture machine).2.result =
        .error (.system error) := by
    simp only [attempt, CommandLine.name, List.headD_cons, resolved, attemptProgram,
      Launch.start, Launch.load_emit, refused]
    rfl
  have ran : ∃ after, (run settings ⟨name :: arguments, redirection⟩).on machine =
      (.error (.system error), after) := by
    cases redirection with
    | none =>
      obtain ⟨after, ran, -⟩ := run_direct settings machine named
      exact ⟨after, by rw [ran, attempted]⟩
    | some redirection => exact ⟨_, run_redirected_failed named rfl (attempted true)⟩
  obtain ⟨after, ran⟩ := ran
  obtain ⟨told, -, executed⟩ := execute_cannotExecute named ran
  exact ⟨_, executed⟩

/-- What the command `type` says about one name. -/
theorem type_single (settings : Settings) (name : String) (machine : Machine) :
    (Builtin.type.run settings [name] machine).2 =
      Builtin.typeReport machine.world settings.path name := by
  have single : (Builtin.type.run settings [name] machine).2 =
      (Builtin.typeReport (machine.emit (Builtin.type.record [name])).world settings.path
        name).andThen {} := rfl
  rw [single, Report.andThen_nothing, Builtin.typeReport, Builtin.typeReport, Machine.resolve_emit]

structure Known (settings : Settings) (machine : Machine) (name : String) : Prop where
  resolved : ∀ missing, machine.world.resolve name settings.path ≠ .notFound missing
  described : (Builtin.type.run settings [name] machine).2.result = .ok 0 ∧
    (Builtin.type.run settings [name] machine).2.output ≠ Bytes.ofText (name ++ ": not found\n")
  started : ∀ arguments redirection missing,
    ((run settings ⟨name :: arguments, redirection⟩).on machine).1 ≠
      .error (.shell (.commandNotFound missing))

/-- Whether a name stands for the same file wherever it is looked up: `type` shows the path of the
file, and a command of the name starts it, with or without a redirection. -/
structure StandsFor (settings : Settings) (machine : Machine) (name path : String) : Prop where
  resolved : machine.world.resolve name settings.path = .program path
  described : (Builtin.type.run settings [name] machine).2 =
    .ofOutput (name ++ " is " ++ path ++ "\n") 0
  started : ∀ arguments, (run settings ⟨name :: arguments, none⟩).on machine =
    (do
      let launch : Launch := ⟨path, name :: arguments, settings.environment⟩
      return (← spawn settings.programs launch false).status : Action Int).on
      (machine.emit ((Resolution.program path).record name))
  captured : ∀ arguments redirection,
    (run settings ⟨name :: arguments, some redirection⟩).on machine =
      (do
        let launch : Launch := ⟨path, name :: arguments, settings.environment⟩
        let outcome ← spawn settings.programs launch true
        deliver ⟨name :: arguments, some redirection⟩ redirection outcome
        return outcome.status : Action Int).on
      (machine.emit ((Resolution.program path).record name))

theorem known_of_resolved
    (known : ∀ missing, machine.world.resolve name settings.path ≠ .notFound missing) :
    Known settings machine name := by
  refine ⟨known, ?_, fun arguments redirection => run_known (List.cons_ne_nil _ _) known⟩
  rw [type_single, Builtin.typeReport]
  cases resolved : machine.world.resolve name settings.path with
  | notFound missing => exact absurd resolved (known missing)
  | builtin builtin =>
    refine ⟨rfl, ?_⟩
    intro same
    simp only [Report.ofOutput, Bytes.ofText_append, List.append_cancel_left_eq] at same
    exact absurd same (by decide)
  | program path =>
    refine ⟨rfl, ?_⟩
    intro same
    simp only [Report.ofOutput, Bytes.ofText_append, List.append_assoc, List.append_cancel_left_eq]
      at same
    have first := congrArg List.head? same
    exact absurd first (by simp [Bytes.ofText, String.utf8EncodeChar])

theorem standsFor_of_resolved (resolved : machine.world.resolve name settings.path = .program path) :
    StandsFor settings machine name path := by
  refine ⟨resolved, ?_, ?_, ?_⟩
  · rw [type_single, Builtin.typeReport, resolved]
  · intro arguments
    simp only [run, runInherited, on_resolveName, Action.on_bind, CommandLine.name, List.headD_cons,
      resolved, launchOf, Settings.childEnvironment_some]
  · intro arguments redirection
    simp only [run, runCaptured, on_resolveName, Action.on_bind, CommandLine.name, List.headD_cons,
      resolved, launchOf, Settings.childEnvironment_some]

/-- A file without the execute bit that a name stands for cannot be started. -/
theorem execute_lacking {directory : String} (named : directory ≠ "") (isName : Path.IsName name)
    (proper : Launch.IsProper arguments settings.environment)
    (resolved : machine.world.resolve name settings.path = .program (Path.join directory name))
    (holds : machine.world.isFile (Path.join directory name) = true)
    (lacks : machine.world.isExecutableFile (Path.join directory name) = false)
    (redirection : Option Redirection) :
    ∃ after, (execute settings ⟨name :: arguments, redirection⟩).on machine = (.ok 126, after) := by
  have free : World.hasNull (Path.join directory name) = false := by
    simp only [World.isFile, Bool.and_eq_true, Bool.not_eq_true'] at holds
    exact holds.1
  have bare : World.hasNull name = false := by
    obtain ⟨before, divided, -⟩ := Path.join_divided named isName.bare
    rw [← Bool.not_eq_true, World.hasNull_iff] at free ⊢
    intro held
    apply free
    rw [divided]
    exact List.mem_append_right _ (List.mem_cons_of_mem _ held)
  have whole : Launch.IsProper (name :: arguments) settings.environment :=
    { proper with argv := List.forall_mem_cons.mpr ⟨bare, proper.argv⟩ }
  apply execute_refused resolved
  exact Launch.load_refused whole (Path.directoryPart_join_ne named isName.bare) holds lacks

end Execution

theorem ne_empty_of_mem_searchDirectories {path directory : String}
    (member : directory ∈ searchDirectories path) : directory ≠ "" := by
  simp only [searchDirectories, Text.filledFields, List.mem_map, List.mem_filter] at member
  obtain ⟨field, ⟨-, filled⟩, rfl⟩ := member
  simpa using filled

namespace Session

/-- Whether a name stands for the first file of that name on the search path. Where another one was
offered, that file may lack the execute bit, and then it cannot be started. -/
structure StandsForFirst (settings : Settings) (machine : Machine) (name directory : String)
    (later : List String) : Prop where
  first : machine.world.FirstHolder name (searchDirectories settings.path) directory later
  stands : Execution.StandsFor settings machine name (Path.join directory name)
  hidden : machine.world.isExecutableFile (Path.join directory name) = false ↔
    ∃ holder behind other,
      machine.world.FirstHolder name (searchDirectories settings.path) holder behind ∧
      machine.world.isExecutableFile (Path.join holder name) = false ∧ other ∈ behind ∧
      machine.world.Offers other name
  refused : machine.world.isExecutableFile (Path.join directory name) = false →
    ∀ arguments redirection, Launch.IsProper arguments settings.environment →
      ∃ after, (Execution.execute settings ⟨name :: arguments, redirection⟩).on machine =
        (.ok 126, after)

theorem standsForFirst_of_offered {settings : Settings} {machine : Machine} {name : String}
    (unnamed : name ∉ Builtin.names)
    (offered : ∃ directory ∈ searchDirectories settings.path,
      machine.world.Offers directory name) :
    ∃ directory later, StandsForFirst settings machine name directory later := by
  obtain ⟨other, member, offers⟩ := offered
  have file := World.isFile_of_isExecutableFile offers.runs
  obtain ⟨directory, later, first⟩ := World.exists_firstHolder ⟨other, member, file⟩
  have resolved := World.resolve_of_firstHolder unnamed offers.isName first
  have listed : directory ∈ searchDirectories settings.path := by
    obtain ⟨⟨earlier, divided, -⟩, -⟩ := first
    rw [divided]
    exact List.mem_append_right _ List.mem_cons_self
  refine ⟨directory, later, first, Execution.standsFor_of_resolved resolved,
    World.not_isExecutableFile_iff ⟨other, member, offers⟩ first, ?_⟩
  intro lacks arguments redirection proper
  exact Execution.execute_lacking (ne_empty_of_mem_searchDirectories listed) offers.isName proper
    resolved first.holds lacks redirection

/-- The names that completion offers are the builtins and the programs that can be seen on the
search path. All of them are known, and one that is no builtin stands for the first file of that
name, which may not be the one that was seen. -/
theorem commandNames_agree (session : Session) (named : session.machine.world.files.IsNamed) :
    ((∃ names, (session.commandNames session.settings.path).1 = .ok names) ↔
      World.hasNull session.settings.path = false) ∧
    ∀ names, (session.commandNames session.settings.path).1 = .ok names →
      (∀ name, name ∈ names ↔ name ∈ Builtin.names ∨
        ∃ directory ∈ searchDirectories session.settings.path,
          session.machine.world.Offers directory name) ∧
      ∀ name ∈ names, Execution.Known session.settings session.machine name ∧
        (name ∉ Builtin.names → ∃ directory later,
          StandsForFirst session.settings session.machine name directory later) := by
  rw [commandNames_eq]
  refine ⟨World.commandNames_ok_iff _ _, ?_⟩
  intro names found
  refine ⟨fun name => World.mem_commandNames named found, ?_⟩
  intro name member
  rw [World.mem_commandNames named found] at member
  by_cases builtin : name ∈ Builtin.names
  · obtain ⟨own, resolved⟩ :=
      World.exists_resolve_of_builtin session.machine.world session.settings.path builtin
    refine ⟨Execution.known_of_resolved ?_, fun unnamed => absurd builtin unnamed⟩
    simp [resolved]
  · obtain ⟨directory, later, first⟩ :=
      standsForFirst_of_offered builtin (member.resolve_left builtin)
    refine ⟨Execution.known_of_resolved ?_, fun _ => ⟨directory, later, first⟩⟩
    simp [first.stands.resolved]

/-- A session with two files of one name on its search path. The first one cannot be executed. -/
def sessionWithTools : Session where
  settings := { environment := [("PATH", "a:b")] }
  machine :=
    { world :=
        { files :=
            { owned := []
              entries :=
                [((1, ["a"]), .directory), ((2, ["tool", "a"]), .file { content := {} }),
                  ((1, ["b"]), .directory), ((2, ["tool", "b"]), .file ⟨{}, true⟩)] }
          directory := .root } }

/-- What is offered is hidden by a file that cannot be started. -/
theorem commandNames_agree_hidden :
    sessionWithTools.machine.world.files.IsNamed ∧
    ∃ names, (sessionWithTools.commandNames sessionWithTools.settings.path).1 = .ok names ∧
      "tool" ∈ names ∧
      ∃ after, (Execution.execute sessionWithTools.settings ⟨["tool"], none⟩).on
        sessionWithTools.machine = (.ok 126, after) := by
  have named : sessionWithTools.machine.world.files.IsNamed := by
    intro entry member name inside
    have filled : ∀ entry ∈ sessionWithTools.machine.world.files.entries, ∀ name ∈ entry.1.2,
        name ≠ "" ∧ '/' ∉ name.toList := by decide
    exact ⟨(filled entry member name inside).1, (filled entry member name inside).2⟩
  obtain ⟨told, agrees⟩ := commandNames_agree sessionWithTools named
  obtain ⟨names, found⟩ := told.mpr rfl
  obtain ⟨offered, known⟩ := agrees names found
  have seen : sessionWithTools.machine.world.Offers "b" "tool" :=
    ⟨⟨["tool"], rfl⟩, ⟨by decide, by decide⟩, rfl⟩
  have member : "tool" ∈ names := (offered "tool").mpr (.inr ⟨"b", by decide, seen⟩)
  obtain ⟨directory, later, first⟩ := (known "tool" member).2 (by decide)
  refine ⟨named, names, found, member, first.refused ?_ [] none ⟨by simp, by decide, by decide⟩⟩
  rw [first.hidden]
  refine ⟨"a", ["b"], "b", ⟨⟨[], rfl, by simp⟩, rfl⟩, rfl, List.mem_cons_self, seen⟩

end Session

end CommandShell
