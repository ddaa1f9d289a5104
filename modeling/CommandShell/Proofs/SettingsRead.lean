import CommandShell.Proofs.ParallelLines

/-! What a line reads of the settings. It reads how to split the line and the variables of the
session. The variables of the process count only where a command goes to the home directory. -/

namespace CommandShell

structure CommandLine.GoesHome (command : CommandLine) : Prop where
  named : Builtin.ofName? command.name = some .cd
  target : Builtin.cdTarget command.arguments = "~"

/-- Settings that lines tell apart by the home directory at most. -/
structure Settings.Agree (one other : Settings) : Prop where
  quoteMode : other.config.quoteMode = one.config.quoteMode
  environment : other.environment = one.environment
  programs : other.programs = one.programs

namespace Settings

variable {one other : Settings}

theorem Agree.path (agree : Agree one other) : other.path = one.path := by
  rw [Settings.path, Settings.path, agree.environment]

/-- The home directory is that of the session where it has one. -/
theorem Agree.home {directory : String} (agree : Agree one other)
    (own : one.environment.nonEmpty? "HOME" = some directory) : other.home = one.home := by
  rw [Settings.home, Settings.home, agree.environment, own, Option.getD_some, Option.getD_some]

theorem Agree.launchOf (agree : Agree one other) (command : CommandLine) (path : String) :
    Execution.launchOf other command path = Execution.launchOf one command path := by
  simp only [Execution.launchOf, childEnvironment_some, agree.environment]

end Settings

variable {one other : Settings} {command : CommandLine} {line : String}

namespace Builtin

theorem changeDirectory_elsewhere {arguments : List String} (elsewhere : cdTarget arguments ≠ "~")
    (home away : String) (machine : Machine) :
    changeDirectory away arguments machine = changeDirectory home arguments machine := by
  simp only [changeDirectory, cdPath, if_neg elsewhere]

theorem perform_congr (agree : one.Agree other) {builtin : Builtin} {arguments : List String}
    (home : builtin = .cd → cdTarget arguments = "~" → other.home = one.home) (machine : Machine) :
    builtin.perform other arguments machine = builtin.perform one arguments machine := by
  cases builtin with
  | type => simp only [perform, Settings.searchPath_some, agree.path]
  | cd =>
    dsimp only [perform]
    by_cases goes : cdTarget arguments = "~"
    · rw [home rfl goes]
    · apply changeDirectory_elsewhere goes
  | exit | echo | pwd | cat | help | clear => rfl

end Builtin

namespace Execution

theorem runBuiltin_congr (agree : one.Agree other) {builtin : Builtin} {arguments : List String}
    (home : builtin = .cd → Builtin.cdTarget arguments = "~" → other.home = one.home) :
    runBuiltin builtin other arguments = runBuiltin builtin one arguments := by
  have same : builtin.run other arguments = builtin.run one arguments := by
    funext machine
    apply Builtin.perform_congr agree home
  simp only [runBuiltin, same]

theorem runCaptured_congr (agree : one.Agree other) (home : command.GoesHome → other.home = one.home)
    (machine : Machine) :
    (runCaptured other command).on machine = (runCaptured one command).on machine := by
  simp only [runCaptured, Action.on_bind, on_resolveName, agree.path, agree.launchOf,
    agree.programs]
  cases resolved : machine.world.resolve command.name one.path with
  | program path => rfl
  | notFound name => rfl
  | builtin builtin =>
    have named := World.resolve_eq_builtin.mp resolved
    dsimp only
    rw [runBuiltin_congr agree]
    rintro rfl goes
    exact home ⟨named, goes⟩

theorem runInherited_congr (agree : one.Agree other)
    (home : command.GoesHome → other.home = one.home) (machine : Machine) :
    (runInherited other command).on machine = (runInherited one command).on machine := by
  simp only [runInherited, Action.on_bind, on_resolveName, agree.path, agree.launchOf,
    agree.programs]
  cases resolved : machine.world.resolve command.name one.path with
  | program path => rfl
  | notFound name => rfl
  | builtin builtin =>
    have named := World.resolve_eq_builtin.mp resolved
    dsimp only
    rw [runBuiltin_congr agree]
    rintro rfl goes
    exact home ⟨named, goes⟩

theorem run_congr (agree : one.Agree other) (home : command.GoesHome → other.home = one.home)
    (machine : Machine) : (run other command).on machine = (run one command).on machine := by
  unfold run
  cases command.redirection with
  | none => exact runInherited_congr agree home machine
  | some redirection => simp only [Action.on_bind, runCaptured_congr agree home]

theorem execute_congr (agree : one.Agree other) (home : command.GoesHome → other.home = one.home)
    (machine : Machine) : (execute other command).on machine = (execute one command).on machine := by
  unfold execute
  split
  · rfl
  · simp only [Action.on_bind, Action.on_tryCatch, run_congr agree home]

theorem wordsOf_congr (agree : one.Agree other) (line : String) :
    wordsOf other line = wordsOf one line := by
  simp only [wordsOf, agree.quoteMode]

theorem runLine_congr (agree : one.Agree other)
    (home : ∀ command, commandOfLine one line = .ok command → command.GoesHome →
      other.home = one.home) (machine : Machine) :
    (runLine other line).on machine = (runLine one line).on machine := by
  simp only [runLine, wordsOf_congr agree, Action.on_bind]
  rcases split : (wordsOf one line).on machine with ⟨fault | words, middle⟩
  · rfl
  obtain ⟨tokenized, -⟩ := wordsOf_read split
  by_cases blank : words.isEmpty = true
  · simp only [blank, if_true]
  simp only [blank, Bool.false_eq_true, if_false, Action.on_bind]
  rcases read : (commandOf words).on middle with ⟨fault | command, ready⟩
  · rfl
  obtain ⟨valid, -⟩ := commandOf_read read
  have named : commandOfLine one line = .ok command := by
    rw [commandOfLine, tokenized]
    exact valid
  simp only [execute_congr agree (home command named)]

/-- Settings that agree do the same with a line, unless it goes home and they have different homes. -/
theorem runOne_congr (agree : one.Agree other) (line : String)
    (home : ∀ command, commandOfLine one line = .ok command → command.GoesHome →
      other.home = one.home) (machine : Machine) :
    (runOne other line).on machine = (runOne one line).on machine := by
  simp only [runOne, Action.on_bind, Action.on_tryCatch, runLine_congr agree home]

end Execution

end CommandShell
