import CommandShell.Proofs.LineRuns
import CommandShell.Proofs.ParallelActions

/-! Lines side by side. A line that is run on two machines whose worlds are alike does the same on
both, if what it reads counts as the same, and what goes into a file is the same. -/

namespace CommandShell

structure Report.Alike (same : Bytes → Bytes → Prop) (first second : Report) : Prop where
  output : same first.output second.output
  errors : second.errors = first.errors
  result : second.result = first.result

namespace Report

variable {same : Bytes → Bytes → Prop}

theorem Alike.refl (additive : Additive same) (report : Report) : report.Alike same report :=
  ⟨additive.refl _, rfl, rfl⟩

theorem Alike.eq {first second : Report} (alike : first.Alike (· = ·) second) : second = first := by
  obtain ⟨output, errors, result⟩ := alike
  cases first
  cases second
  simp_all

theorem Alike.andThen (additive : Additive same) {first second later more : Report}
    (alike : first.Alike same second) (follows : later.Alike same more) :
    (first.andThen later).Alike same (second.andThen more) := by
  unfold Report.andThen
  rw [alike.result]
  cases first.result with
  | error fault => exact alike
  | ok status =>
    refine ⟨additive.append alike.output follows.output, ?_, ?_⟩
    · rw [alike.errors, follows.errors]
    · rw [follows.result]

theorem Alike.forEach (additive : Additive same) {α : Type} {operands : List α}
    {report other : α → Report}
    (alike : ∀ operand ∈ operands, (report operand).Alike same (other operand)) :
    (forEach operands report).Alike same (forEach operands other) := by
  induction operands with
  | nil => exact .refl additive _
  | cons operand operands ih =>
    obtain ⟨first, others⟩ := List.forall_mem_cons.mp alike
    exact first.andThen additive (ih others)

end Report

structure Outcome.Alike (same : Bytes → Bytes → Prop) (first second : Outcome) : Prop where
  output : same first.output second.output
  errors : second.errors = first.errors
  status : second.status = first.status

/-- Whether a file holds what counts as the same for two machines, whatever they have logged. -/
def ReadsAlike (alike : World → World → Prop) (same : Bytes → Bytes → Prop) (first second : Machine)
    (path : String) : Prop :=
  ∀ ended finished, first.Logged ended → second.Logged finished →
    alike ended.world finished.world →
    Answers same (ended.world.readFile path) (finished.world.readFile path)

/-- What has to hold for a command to do the same on two machines: what it reads counts as the same,
a program that it starts sees nothing else, and what goes into a file is the same. -/
structure CommandLine.ReadsAlike (settings : Settings) (alike : World → World → Prop)
    (same : Bytes → Bytes → Prop) (command : CommandLine) (first second : Machine) : Prop where
  programs : ∀ program, Execution.Starts settings command first program →
    settings.programs.Overlook alike program
  operands : Builtin.ofName? command.name = some .cat → ∀ path ∈ command.arguments,
    CommandShell.ReadsAlike alike same first second path
  target : ∀ redirection, command.redirection = some redirection → redirection.stream = .output →
    ∀ one other, same one other → one = other

section Lines

variable {busy : Option Location} {alike : World → World → Prop} {same : Bytes → Bytes → Prop}
  {first second ended finished : Machine} {settings : Settings}

theorem Execution.Starts.of_alike {command : CommandLine} {program : StartedProgram}
    (starts : Starts settings command first program) (indistinct : Indistinct busy alike)
    (machines : Machine.Alike busy alike first second) : Starts settings command second program := by
  obtain ⟨path, resolved, loaded⟩ := starts
  refine ⟨path, (indistinct.resolve machines.world _ _).trans resolved, ?_⟩
  rw [machines.opened] at loaded
  rw [machines.logger, machines.opened, indistinct.load machines.world]
  exact loaded

theorem ReadsAlike.later {path : String} (reads : ReadsAlike alike same first second path)
    (logged : first.Logged ended) (also : second.Logged finished) :
    ReadsAlike alike same ended finished path :=
  fun last final more others => reads last final (logged.trans more) (also.trans others)

theorem CommandLine.ReadsAlike.later {command : CommandLine}
    (reads : command.ReadsAlike settings alike same first second) (logged : first.Logged ended)
    (also : second.Logged finished) : command.ReadsAlike settings alike same ended finished where
  programs program starts := reads.programs program (starts.of_logged logged)
  operands named path member := (reads.operands named path member).later logged also
  target := reads.target

namespace Builtin

theorem catReport_alike (additive : Additive same) {before after : World} {path : String}
    (reads : Answers same (before.readFile path) (after.readFile path)) :
    (catReport before path).Alike same (catReport after path) := by
  unfold catReport
  generalize before.readFile path = one at reads ⊢
  generalize after.readFile path = other at reads ⊢
  cases reads with
  | ok holds => exact ⟨holds, rfl, rfl⟩
  | error fault => exact .refl additive _

structure Ends (busy : Option Location) (alike : World → World → Prop)
    (same : Bytes → Bytes → Prop) (first second : Machine) (one other : Machine × Report) : Prop where
  beside : Beside busy alike same first second one.1 other.1
  report : one.2.Alike same other.2

theorem Ends.unchanged (additive : Additive same)
    (machines : Machine.Alike busy alike first second) (report : Report) :
    Ends busy alike same first second (first, report) (second, report) :=
  ⟨.refl additive machines, .refl additive report⟩

theorem changeDirectory_ends (indistinct : Indistinct busy alike) (additive : Additive same)
    (machines : Machine.Alike busy alike first second) (home : String) (arguments : List String) :
    Ends busy alike same first second (changeDirectory home arguments first)
      (changeDirectory home arguments second) := by
  have moved := indistinct.changeDirectory machines.world (cdPath home (cdTarget arguments))
  unfold changeDirectory
  dsimp only
  generalize first.world.changeDirectory _ = one at moved ⊢
  generalize second.world.changeDirectory _ = other at moved ⊢
  cases moved with
  | error fault => cases fault <;> exact .unchanged additive machines _
  | @ok before after holds =>
    have entered : Machine.Alike busy alike { first with world := before }
      { second with world := after } := { machines with world := holds }
    have step : Beside busy alike same first second { first with world := before }
        { second with world := after } :=
      ⟨entered, [], [], [], additive.refl [], ⟨(List.append_nil _).symm, rfl, rfl⟩,
        ⟨(List.append_nil _).symm, rfl, rfl⟩⟩
    dsimp only
    rw [indistinct.workingDirectory holds]
    cases before.workingDirectory with
    | error fault => exact ⟨step, .refl additive _⟩
    | ok directory =>
      exact ⟨step.trans additive (.emit indistinct additive entered _), .refl additive _⟩

theorem perform_ends (indistinct : Indistinct busy alike) (additive : Additive same)
    (machines : Machine.Alike busy alike first second) (builtin : Builtin) (settings : Settings)
    (arguments : List String)
    (reads : builtin = .cat → ∀ path ∈ arguments,
      Answers same (first.world.readFile path) (second.world.readFile path)) :
    Ends busy alike same first second (builtin.perform settings arguments first)
      (builtin.perform settings arguments second) := by
  cases builtin with
  | exit =>
    exact ⟨⟨{ machines with running := rfl }, [], [], [], additive.refl [],
      ⟨(List.append_nil _).symm, rfl, rfl⟩, ⟨(List.append_nil _).symm, rfl, rfl⟩⟩, .refl additive _⟩
  | type =>
    have resolve := indistinct.resolve machines.world
    have described : typeReport second.world settings.path = typeReport first.world settings.path := by
      funext name
      rw [typeReport, typeReport, resolve]
    simp only [perform, Settings.searchPath_some, resolve, described]
    exact ⟨.emitAll indistinct additive machines _, .refl additive _⟩
  | pwd =>
    simp only [perform, pwdReport, indistinct.workingDirectory machines.world]
    exact .unchanged additive machines _
  | cd => exact changeDirectory_ends indistinct additive machines _ _
  | cat =>
    refine ⟨.refl additive machines, .forEach additive ?_⟩
    intro path member
    exact catReport_alike additive (reads rfl path member)
  | echo => exact .unchanged additive machines _
  | help => exact .unchanged additive machines _
  | clear => exact .unchanged additive machines _

end Builtin

namespace Execution

variable {command : CommandLine} {line : String}

/-- A builtin begins with a record of its own. -/
theorem run_ends (indistinct : Indistinct busy alike) (additive : Additive same)
    (machines : Machine.Alike busy alike first second) (builtin : Builtin) (settings : Settings)
    (arguments : List String)
    (reads : builtin = .cat → ∀ path ∈ arguments, ReadsAlike alike same first second path) :
    Builtin.Ends busy alike same first second (builtin.run settings arguments first)
      (builtin.run settings arguments second) := by
  have step := Beside.emit indistinct additive machines (builtin.record arguments)
  have ended := Builtin.perform_ends indistinct additive step.alike builtin settings arguments
    fun named path member =>
      reads named path member _ _ (.emit _ _) (.emit _ _) step.alike.world
  exact ⟨step.trans additive ended.beside, ended.report⟩

theorem runBuiltin_parallel (indistinct : Indistinct busy alike) (additive : Additive same)
    (machines : Machine.Alike busy alike first second) (builtin : Builtin) (settings : Settings)
    (arguments : List String)
    (reads : builtin = .cat → ∀ path ∈ arguments, ReadsAlike alike same first second path) :
    Parallel busy alike same (Report.Alike same) (runBuiltin builtin settings arguments)
      (runBuiltin builtin settings arguments) first second :=
  have ended := run_ends indistinct additive machines builtin settings arguments reads
  ⟨.ok ended.report, ended.beside⟩

theorem resolveName_parallel (indistinct : Indistinct busy alike) (additive : Additive same)
    (machines : Machine.Alike busy alike first second) (settings : Settings) (name : String) :
    Parallel busy alike same
      (fun one other => other = one ∧ one = first.world.resolve name settings.path)
      (resolveName settings name) (resolveName settings name) first second := by
  have resolved := indistinct.resolve machines.world name settings.path
  have one : (resolveName settings name).on first =
    (.ok (first.world.resolve name settings.path),
      first.emit ((first.world.resolve name settings.path).record name)) := rfl
  have other : (resolveName settings name).on second =
      (.ok (first.world.resolve name settings.path),
        second.emit ((first.world.resolve name settings.path).record name)) := by
    rw [← resolved]
    rfl
  refine ⟨?_, ?_⟩
  · rw [one, other]
    exact .ok ⟨rfl, rfl⟩
  · rw [one, other]
    exact .emit indistinct additive machines _

theorem resolveName_logged {name : String} {resolution : Resolution}
    (resolved : (resolveName settings name).on first = (.ok resolution, ended)) :
    first.Logged ended := by
  have left : ended = first.emit ((first.world.resolve name settings.path).record name) :=
    (congrArg Prod.snd resolved).symm
  rw [left]
  exact .emit _ _

/-- The texts of a program and the file it starts from are the same, so its outcome is. -/
theorem spawn_parallel (indistinct : Indistinct busy alike) (additive : Additive same)
    (machines : Machine.Alike busy alike first second) {programs : Programs} {launch : Launch}
    (overlook : ∀ program, launch.load programs first.world first.logger.openFile? = .ok program →
      programs.Overlook alike program) (capture : Bool) :
    Parallel busy alike same (· = ·) (spawn programs launch capture) (spawn programs launch capture)
      first second := by
  unfold spawn
  apply Parallel.bind additive (.log indistinct additive machines _)
  rintro _ _ ended finished logged - - machines
  apply Parallel.bind additive (.get additive machines)
  rintro one other _ finished got - around machines
  have started : launch.start programs other.world other.logger.openFile? capture =
      launch.start programs one.world one.logger.openFile? capture := by
    rw [around.logger, around.opened]
    refine indistinct.start around.world ?_ capture
    intro program loaded
    cases logged
    cases got
    rw [← around.opened, Launch.load_emit] at loaded
    exact overlook program loaded
  rw [started]
  apply Parallel.next additive (.ofExcept additive machines (.of_eq _))
  intro outcome ended finished machines
  have finishing : ∀ {ended finished}, Machine.Alike busy alike ended finished →
      Parallel busy alike same (· = ·) (tellEnd launch capture outcome)
        (tellEnd launch capture outcome) ended finished := by
    intro ended finished machines
    unfold tellEnd
    cases launch.argv with
    | nil => exact .throw additive machines _
    | cons name arguments =>
      apply Parallel.next additive (.log indistinct additive machines _)
      intro _ ended finished machines
      exact .pure additive machines rfl
  cases capture with
  | true => exact finishing machines
  | false =>
    apply Parallel.next additive (.inherit machines (additive.refl _) _)
    intro _ ended finished machines
    exact finishing machines

theorem runCaptured_parallel (indistinct : Indistinct busy alike) (additive : Additive same)
    (machines : Machine.Alike busy alike first second)
    (reads : command.ReadsAlike settings alike same first second) :
    Parallel busy alike same (Outcome.Alike same) (runCaptured settings command)
      (runCaptured settings command) first second := by
  unfold runCaptured
  apply Parallel.bind additive (resolveName_parallel indistinct additive machines settings _)
  rintro _ resolution ended finished ran also ⟨rfl, resolved⟩ machines
  have later := reads.later (resolveName_logged ran) (resolveName_logged also)
  cases resolution with
  | notFound name => exact .throw additive machines _
  | program path =>
    have still : ended.world.resolve command.name settings.path = .program path :=
      ((resolveName_logged ran).resolve _ _).trans resolved.symm
    have spawned := spawn_parallel indistinct additive machines
      (fun program loaded => later.programs program ⟨path, still, loaded⟩) true
    refine ⟨spawned.answers.mono ?_, spawned.beside⟩
    rintro outcome - rfl
    exact ⟨additive.refl _, rfl, rfl⟩
  | builtin builtin =>
    have named := World.resolve_eq_builtin.mp resolved.symm
    apply Parallel.bind additive (runBuiltin_parallel indistinct additive machines builtin settings
      command.arguments (by rintro rfl; exact later.operands named))
    rintro report other ended finished - - told machines
    apply Parallel.next additive (.ofExcept additive machines (told.result ▸ .of_eq _))
    intro status ended finished machines
    exact .pure additive machines ⟨told.output, told.errors, rfl⟩

theorem runInherited_parallel (indistinct : Indistinct busy alike) (additive : Additive same)
    (machines : Machine.Alike busy alike first second)
    (reads : command.ReadsAlike settings alike same first second) :
    Parallel busy alike same (· = ·) (runInherited settings command)
      (runInherited settings command) first second := by
  unfold runInherited
  apply Parallel.bind additive (resolveName_parallel indistinct additive machines settings _)
  rintro _ resolution ended finished ran also ⟨rfl, resolved⟩ machines
  have later := reads.later (resolveName_logged ran) (resolveName_logged also)
  cases resolution with
  | notFound name => exact .throw additive machines _
  | program path =>
    have still : ended.world.resolve command.name settings.path = .program path :=
      ((resolveName_logged ran).resolve _ _).trans resolved.symm
    apply Parallel.next additive (spawn_parallel indistinct additive machines
      (fun program loaded => later.programs program ⟨path, still, loaded⟩) false)
    intro outcome ended finished machines
    exact .pure additive machines rfl
  | builtin builtin =>
    have named := World.resolve_eq_builtin.mp resolved.symm
    apply Parallel.bind additive (runBuiltin_parallel indistinct additive machines builtin settings
      command.arguments (by rintro rfl; exact later.operands named))
    rintro report other ended finished - - told machines
    apply Parallel.next additive (.write machines told.output)
    intro _ ended finished machines
    rw [told.errors]
    apply Parallel.next additive (.writeError additive machines _)
    intro _ ended finished machines
    exact .ofExcept additive machines (told.result ▸ .of_eq _)

theorem writeRedirected_parallel (indistinct : Indistinct busy alike) (additive : Additive same)
    (machines : Machine.Alike busy alike first second) (name : String) (redirection : Redirection)
    (data : Bytes) :
    Parallel busy alike same (· = ·) (writeRedirected name redirection data)
      (writeRedirected name redirection data) first second := by
  unfold writeRedirected
  apply Parallel.bind additive (.inspect additive machines)
  rintro world other ended finished - - worlds machines
  obtain ⟨written, result⟩ := indistinct.writeTarget worlds redirection data
  dsimp only
  rw [result]
  apply Parallel.next additive (.setWorld additive machines written)
  intro _ ended finished machines
  apply Parallel.next additive (.ofExcept additive machines (.of_eq _))
  intro _ ended finished machines
  exact .log indistinct additive machines _

theorem deliver_parallel (indistinct : Indistinct busy alike) (additive : Additive same)
    (machines : Machine.Alike busy alike first second) (command : CommandLine)
    (redirection : Redirection) {outcome other : Outcome} (outcomes : outcome.Alike same other)
    (target : redirection.stream = .output → ∀ one other, same one other → one = other) :
    Parallel busy alike same (· = ·) (deliver command redirection outcome)
      (deliver command redirection other) first second := by
  unfold deliver forwardedStream
  cases redirected : redirection.stream with
  | output =>
    have shown : streamOf other .output = streamOf outcome .output :=
      (target redirected _ _ outcomes.output).symm
    have passed : streamOf other .error = streamOf outcome .error := outcomes.errors
    dsimp only
    rw [shown, passed]
    apply Parallel.next additive (.writeError additive machines _)
    intro _ ended finished machines
    exact writeRedirected_parallel indistinct additive machines _ _ _
  | error =>
    have shown : streamOf other .error = streamOf outcome .error := outcomes.errors
    dsimp only
    rw [shown]
    apply Parallel.next additive (.write machines outcomes.output)
    intro _ ended finished machines
    exact writeRedirected_parallel indistinct additive machines _ _ _

theorem run_parallel (indistinct : Indistinct busy alike) (additive : Additive same)
    (machines : Machine.Alike busy alike first second)
    (reads : command.ReadsAlike settings alike same first second) :
    Parallel busy alike same (· = ·) (run settings command) (run settings command) first second := by
  unfold run
  cases redirected : command.redirection with
  | none => exact runInherited_parallel indistinct additive machines reads
  | some redirection =>
    apply Parallel.bind additive (runCaptured_parallel indistinct additive machines reads)
    rintro outcome other ended finished - - outcomes machines
    apply Parallel.next additive (deliver_parallel indistinct additive machines command redirection
      outcomes (reads.target redirection redirected))
    intro _ ended finished machines
    exact .pure additive machines outcomes.status.symm

theorem recover_parallel (indistinct : Indistinct busy alike) (additive : Additive same)
    (machines : Machine.Alike busy alike first second) (command : CommandLine) (fault : Fault) :
    Parallel busy alike same (· = ·) (recover command fault) (recover command fault) first second := by
  have reported (status : Int) (text : String) {ended finished : Machine}
      (machines : Machine.Alike busy alike ended finished) :
      Parallel busy alike same (· = ·) (do Action.reportLine text; return status)
        (do Action.reportLine text; return status) ended finished := by
    apply Parallel.next additive (.writeError additive machines _)
    intro _ ended finished machines
    exact .pure additive machines rfl
  unfold recover
  split
  · exact reported _ _ machines
  · exact reported _ _ machines
  · apply Parallel.next additive (.log indistinct additive machines _)
    intro _ ended finished machines
    exact reported _ _ machines
  · exact .throw additive machines _

theorem execute_parallel (indistinct : Indistinct busy alike) (additive : Additive same)
    (machines : Machine.Alike busy alike first second)
    (reads : command.ReadsAlike settings alike same first second) :
    Parallel busy alike same (· = ·) (execute settings command) (execute settings command) first
      second := by
  unfold execute
  split
  · exact .pure additive machines rfl
  · apply Parallel.next additive (.tryCatch additive
      (run_parallel indistinct additive machines reads)
      fun fault ended finished machines => recover_parallel indistinct additive machines _ fault)
    intro status ended finished machines
    apply Parallel.next additive (.rememberStatus additive machines status)
    intro _ ended finished machines
    exact .pure additive machines rfl

theorem wordsOf_parallel (indistinct : Indistinct busy alike) (additive : Additive same)
    (machines : Machine.Alike busy alike first second) (settings : Settings) (line : String) :
    Parallel busy alike same (· = ·) (wordsOf settings line) (wordsOf settings line) first second := by
  unfold wordsOf
  apply Parallel.next additive (.ofExcept additive machines (.of_eq _))
  intro words ended finished machines
  have split : ∀ {ended finished}, Machine.Alike busy alike ended finished →
      Parallel busy alike same (· = ·)
        (do Action.log (splitRecord (Text.quoted line) words); return words)
        (do Action.log (splitRecord (Text.quoted line) words); return words) ended finished := by
    intro ended finished machines
    apply Parallel.next additive (.log indistinct additive machines _)
    intro _ ended finished machines
    exact .pure additive machines rfl
  cases Words.openMark line.toList with
  | none => exact split machines
  | some mark =>
    apply Parallel.next additive (.log indistinct additive machines _)
    intro _ ended finished machines
    exact split machines

theorem commandOf_parallel (indistinct : Indistinct busy alike) (additive : Additive same)
    (machines : Machine.Alike busy alike first second) (words : List String) :
    Parallel busy alike same (· = ·) (commandOf words) (commandOf words) first second := by
  unfold commandOf
  apply Parallel.next additive (.ofExcept additive machines (.of_eq _))
  intro found ended finished machines
  apply Parallel.next additive (.ofExcept additive machines (.of_eq _))
  intro command ended finished machines
  cases command.redirection with
  | none => exact .pure additive machines rfl
  | some redirection =>
    dsimp only
    split
    · apply Parallel.next additive (.log indistinct additive machines _)
      intro _ ended finished machines
      exact .pure additive machines rfl
    · exact .pure additive machines rfl

theorem wordsOf_read {words : List String}
    (read : (wordsOf settings line).on first = (.ok words, ended)) :
    tokenize line settings.config.quoteMode = .ok words ∧ first.Logged ended := by
  cases split : tokenize line settings.config.quoteMode with
  | error error =>
    rw [wordsOf_rejected split] at read
    cases read
  | ok words =>
    obtain ⟨after, ran, logged⟩ := wordsOf_words first split
    cases ran.symm.trans read
    exact ⟨rfl, logged⟩

theorem commandOf_read {words : List String}
    (read : (commandOf words).on first = (.ok command, ended)) :
    CommandLine.ofWords words = .ok command ∧ first.Logged ended := by
  cases valid : CommandLine.ofWords words with
  | error error =>
    rw [commandOf_rejected valid] at read
    cases read
  | ok command =>
    obtain ⟨after, ran, logged⟩ := commandOf_command first valid
    cases ran.symm.trans read
    exact ⟨rfl, logged⟩

theorem runLine_parallel (indistinct : Indistinct busy alike) (additive : Additive same)
    (machines : Machine.Alike busy alike first second)
    (reads : ∀ command, commandOfLine settings line = .ok command →
      command.ReadsAlike settings alike same first second) :
    Parallel busy alike same (· = ·) (runLine settings line) (runLine settings line) first second := by
  unfold runLine
  apply Parallel.bind additive (wordsOf_parallel indistinct additive machines settings line)
  rintro words _ ended finished ran also rfl machines
  split
  · exact .pure additive machines rfl
  obtain ⟨split, logged⟩ := wordsOf_read ran
  obtain ⟨-, others⟩ := wordsOf_read also
  apply Parallel.bind additive (commandOf_parallel indistinct additive machines words)
  rintro command _ ended finished ran also rfl machines
  obtain ⟨valid, more⟩ := commandOf_read ran
  obtain ⟨-, further⟩ := commandOf_read also
  have read : commandOfLine settings line = .ok command := by
    rw [commandOfLine, split]
    exact valid
  have later := (reads command read).later (logged.trans more) (others.trans further)
  apply Parallel.next additive (execute_parallel indistinct additive machines later)
  intro status ended finished machines
  exact .pure additive machines rfl

theorem runOne_parallel (indistinct : Indistinct busy alike) (additive : Additive same)
    (machines : Machine.Alike busy alike first second)
    (reads : ∀ command, commandOfLine settings line = .ok command →
      command.ReadsAlike settings alike same first second) :
    Parallel busy alike same (· = ·) (runOne settings line) (runOne settings line) first second := by
  unfold runOne
  apply Parallel.next additive (.tryCatch additive
    (runLine_parallel indistinct additive machines reads) ?_)
  · intro status ended finished machines
    cases status with
    | none =>
      apply Parallel.bind additive (.get additive machines)
      rintro one other ended finished - - around machines
      exact .pure additive machines around.lastStatus.symm
    | some status =>
      apply Parallel.next additive (.rememberStatus additive machines status)
      intro _ ended finished machines
      exact .pure additive machines rfl
  · intro fault ended finished machines
    cases fault with
    | shell error =>
      apply Parallel.next additive (.writeError additive machines _)
      intro _ ended finished machines
      exact .pure additive machines rfl
    | _ => exact .throw additive machines _

end Execution

end Lines

end CommandShell
