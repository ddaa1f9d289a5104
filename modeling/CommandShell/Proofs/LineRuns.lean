import CommandShell.Proofs.CommandFaults

/-! How a line is run. Reading it logs records at most, and a line that cannot be read stops
there, whatever command it starts with. What ends the command is reported, unless it is no
affair of the line. -/

namespace CommandShell

namespace Execution

/-- The command of a line. A line without words has one without words. -/
def commandOfLine (settings : Settings) (line : String) : Except ShellError CommandLine :=
  (tokenize line settings.config.quoteMode).bind CommandLine.ofWords

def afterReading (settings : Settings) (line : String) (machine : Machine) : Machine :=
  ((wordsOf settings line >>= commandOf).on machine).2

structure Reads (settings : Settings) (line : String) (command : CommandLine) : Prop where
  filled : tokenize line settings.config.quoteMode ≠ .ok []
  command : commandOfLine settings line = .ok command

def reported (machine : Machine) (text : String) (status : Int) : Machine :=
  { machine with
    console := machine.console.writeError (Bytes.ofText (text ++ "\n")), lastStatus := status }

end Execution

section Reported

variable {before done after : Machine} {output errors : Bytes}

theorem Spoke.reported (spoke : Spoke before after output errors) (text : String) (status : Int) :
    Spoke before (Execution.reported after text status) output
      (errors ++ Bytes.ofText (text ++ "\n")) := by
  have line := (Wrote.writeError after (Bytes.ofText (text ++ "\n"))).toSpoke
  have whole := spoke.trans line
  rw [List.append_nil] at whole
  exact whole.remembering status

theorem Wrote.reported (wrote : Wrote before after output errors) (text : String) (status : Int) :
    Wrote before (Execution.reported after text status) output
      (errors ++ Bytes.ofText (text ++ "\n")) :=
  ⟨wrote.toSpoke.reported text status, wrote.files⟩

theorem WroteAt.reported (shown : WroteAt .session (bytesOn output errors) before after)
    (text : String) (status : Int) :
    WroteAt .session (bytesOn output (errors ++ Bytes.ofText (text ++ "\n"))) before
      (Execution.reported after text status) := by
  have line := shown.trans (.writeError after (Bytes.ofText (text ++ "\n")))
  rw [List.append_nil] at line
  exact line.quiet (.of_console rfl)

theorem SpokeOn.reported (spoke : SpokeOn .session before after output errors) (text : String)
    (status : Int) :
    SpokeOn .session before (Execution.reported after text status) output
      (errors ++ Bytes.ofText (text ++ "\n")) :=
  ⟨spoke.toSpoke.reported text status, spoke.outlet.reported text status⟩

theorem WroteOn.reported (wrote : WroteOn .session before after output errors) (text : String)
    (status : Int) :
    WroteOn .session before (Execution.reported after text status) output
      (errors ++ Bytes.ofText (text ++ "\n")) :=
  ⟨wrote.toWrote.reported text status, wrote.outlet.reported text status⟩

theorem Stays.reported (stays : Stays done after) (text : String) (status : Int) :
    Stays done (Execution.reported after text status) := ⟨stays.running, stays.directory⟩

end Reported

namespace Execution

variable {settings : Settings} {line : String} {machine middle after : Machine}
  {words : List String} {command : CommandLine} {error : ShellError}

theorem wordsOf_rejected (unreadable : tokenize line settings.config.quoteMode = .error error) :
    (wordsOf settings line).on machine = (.error (.shell error), machine) := by
  simp only [wordsOf, Action.on_bind, Action.on_ofExcept, unreadable, Action.mapError_error]

theorem wordsOf_words (machine : Machine)
    (split : tokenize line settings.config.quoteMode = .ok words) :
    ∃ after, (wordsOf settings line).on machine = (.ok words, after) ∧ machine.Logged after := by
  simp only [wordsOf, Action.on_bind, Action.on_ofExcept, split, Action.mapError_ok]
  cases Words.openMark line.toList with
  | none => exact ⟨_, rfl, .emit _ _⟩
  | some mark => exact ⟨_, rfl, (Machine.Logged.emit _ _).trans (.emit _ _)⟩

theorem commandOf_rejected (invalid : CommandLine.ofWords words = .error error) :
    (commandOf words).on machine = (.error (.shell error), machine) := by
  unfold CommandLine.ofWords at invalid
  cases found : CommandLine.redirections words with
  | ok redirections =>
    rw [found] at invalid
    cases invalid
  | error other =>
    rw [found] at invalid
    cases invalid
    simp only [commandOf, Action.on_bind, Action.on_ofExcept, found, Action.mapError_error]

theorem commandOf_command (machine : Machine) (valid : CommandLine.ofWords words = .ok command) :
    ∃ after, (commandOf words).on machine = (.ok command, after) ∧ machine.Logged after := by
  cases found : CommandLine.redirections words with
  | error other =>
    rw [CommandLine.ofWords, found] at valid
    cases valid
  | ok redirections =>
    simp only [commandOf, Action.on_bind, Action.on_ofExcept, found, valid, Action.mapError_ok]
    cases command.redirection with
    | none => exact ⟨_, rfl, .refl _⟩
    | some redirection =>
      dsimp only
      split
      · exact ⟨_, rfl, .emit _ _⟩
      · exact ⟨_, rfl, .refl _⟩

theorem runOne_blank (machine : Machine)
    (blank : tokenize line settings.config.quoteMode = .ok []) :
    ∃ after, (runOne settings line).on machine = (.ok machine.lastStatus, after) ∧
      machine.Logged after := by
  obtain ⟨after, read, logged⟩ := wordsOf_words machine blank
  refine ⟨after, ?_, logged⟩
  simp only [runOne, Action.on_bind, Action.on_tryCatch, runLine, read, List.isEmpty_nil, if_true,
    Action.on_pure, Action.on_get, logged.lastStatus]

theorem runLine_rejected (machine : Machine) (invalid : commandOfLine settings line = .error error) :
    ∃ ready, machine.Logged ready ∧
      (runLine settings line).on machine = (.error (.shell error), ready) := by
  unfold commandOfLine at invalid
  cases split : tokenize line settings.config.quoteMode with
  | error other =>
    rw [split] at invalid
    cases invalid
    refine ⟨machine, .refl _, ?_⟩
    simp only [runLine, Action.on_bind, wordsOf_rejected split]
  | ok words =>
    rw [split] at invalid
    obtain ⟨ready, read, logged⟩ := wordsOf_words machine split
    have filled : words.isEmpty = false := by
      cases words with
      | nil => cases invalid
      | cons word words => rfl
    refine ⟨ready, logged, ?_⟩
    simp only [runLine, Action.on_bind, read, filled, Bool.false_eq_true, if_false,
      commandOf_rejected invalid]

theorem runOne_rejected (machine : Machine) (invalid : commandOfLine settings line = .error error) :
    ∃ ready, machine.Logged ready ∧
      (runOne settings line).on machine = (.ok 2, reported ready error.message 2) := by
  obtain ⟨ready, logged, stopped⟩ := runLine_rejected machine invalid
  refine ⟨ready, logged, ?_⟩
  simp only [runOne, Action.on_bind, Action.on_tryCatch, stopped, recoverLine, Action.reportLine,
    Action.on_writeError, Action.on_pure, rememberStatus, Action.on_modify]
  rfl

namespace Reads

theorem exists_words (reads : Reads settings line command) :
    ∃ words, tokenize line settings.config.quoteMode = .ok words ∧ words ≠ [] ∧
      CommandLine.ofWords words = .ok command := by
  obtain ⟨filled, read⟩ := reads
  unfold commandOfLine at read
  cases split : tokenize line settings.config.quoteMode with
  | error error =>
    rw [split] at read
    cases read
  | ok words =>
    rw [split] at read filled
    refine ⟨words, rfl, ?_, read⟩
    intro empty
    exact filled (congrArg Except.ok empty)

/-- A line that names a command is not without words. -/
theorem of_named {name : String} {arguments : List String} {redirection : Option Redirection}
    (read : commandOfLine settings line = .ok ⟨name :: arguments, redirection⟩) :
    Reads settings line ⟨name :: arguments, redirection⟩ := by
  refine ⟨?_, read⟩
  intro blank
  rw [commandOfLine, blank] at read
  cases read

theorem runLine (reads : Reads settings line command) (machine : Machine) :
    machine.Logged (afterReading settings line machine) ∧
      (runLine settings line).on machine =
        match (execute settings command).on (afterReading settings line machine) with
        | (.ok status, after) => (.ok (some status), after)
        | (.error fault, after) => (.error fault, after) := by
  obtain ⟨words, split, filled, valid⟩ := reads.exists_words
  obtain ⟨middle, read, first⟩ := wordsOf_words machine split
  obtain ⟨ready, understood, second⟩ := commandOf_command middle valid
  have same : afterReading settings line machine = ready := by
    simp only [afterReading, Action.on_bind, read, understood]
  have some_ : words.isEmpty = false := by simpa using filled
  rw [same]
  refine ⟨first.trans second, ?_⟩
  simp only [Execution.runLine, Action.on_bind, read, some_, Bool.false_eq_true, if_false,
    understood]
  rcases (execute settings command).on ready with ⟨fault | status, after⟩ <;> rfl

theorem logged (reads : Reads settings line command) (machine : Machine) :
    machine.Logged (afterReading settings line machine) := (reads.runLine machine).1

/-- A line has the status of its command. -/
theorem runOne {status : Int} (reads : Reads settings line command)
    (executed : (execute settings command).on (afterReading settings line machine) =
      (.ok status, after)) :
    (runOne settings line).on machine = (.ok status, { after with lastStatus := status }) := by
  obtain ⟨-, ran⟩ := reads.runLine machine
  rw [executed] at ran
  simp only [Execution.runOne, Action.on_bind, Action.on_tryCatch, ran, rememberStatus,
    Action.on_modify, Action.on_pure]

/-- What is no error of the shell goes past the line. -/
theorem runOne_escaped {fault : Fault} (reads : Reads settings line command)
    (outside : fault.IsOutside)
    (executed : (execute settings command).on (afterReading settings line machine) =
      (.error fault, after)) :
    (Execution.runOne settings line).on machine = (.error fault, after) := by
  obtain ⟨-, ran⟩ := reads.runLine machine
  rw [executed] at ran
  have passed : (recoverLine fault).on after = (.error fault, after) := by
    cases fault with
    | shell error => exact outside.elim
    | _ => rfl
  simp only [Execution.runOne, Action.on_bind, Action.on_tryCatch, ran, passed]

end Reads

section Recovery

theorem execute_recovered {fault : Fault} {status : Int} (named : command.argv ≠ [])
    (ran : (run settings command).on machine = (.error fault, middle))
    (recovered : (recover command fault).on middle = (.ok status, after)) :
    (execute settings command).on machine = (.ok status, { after with lastStatus := status }) := by
  have filled : command.argv.isEmpty = false := by simpa using named
  simp only [execute, filled, Bool.false_eq_true, if_false, Action.on_bind, Action.on_tryCatch, ran,
    recovered, rememberStatus, Action.on_modify, Action.on_pure]

theorem execute_notFound {name : String} (named : command.argv ≠ [])
    (ran : (run settings command).on machine = (.error (.shell (.commandNotFound name)), middle)) :
    (execute settings command).on machine =
      (.ok 127, reported middle (name ++ ": command not found") 127) :=
  execute_recovered named ran rfl

theorem execute_notWritten {name target reason : String} (named : command.argv ≠ [])
    (ran : (run settings command).on machine =
      (.error (.shell (.redirectionWrite name target reason)), middle)) :
    (execute settings command).on machine =
      (.ok 1, reported middle (name ++ ": " ++ target ++ ": " ++ reason) 1) :=
  execute_recovered named ran rfl

theorem execute_cannotExecute {error : SystemError} (named : command.argv ≠ [])
    (ran : (run settings command).on machine = (.error (.system error), middle)) :
    ∃ told, middle.Logged told ∧ (execute settings command).on machine =
      (.ok 126, reported told (command.name ++ ": " ++ error.cause.reason) 126) :=
  ⟨_, .emit _ _, execute_recovered named ran rfl⟩

/-- What is neither an error of the shell nor a refusal of the system is not reported. -/
theorem execute_escaped {fault : Fault} (named : command.argv ≠ [])
    (ran : (run settings command).on machine = (.error fault, middle))
    (outside : fault.IsOutside) (foreign : ∀ error, fault ≠ .system error) :
    (execute settings command).on machine = (.error fault, middle) := by
  have filled : command.argv.isEmpty = false := by simpa using named
  have passed : (recover command fault).on middle = (.error fault, middle) := by
    cases fault with
    | shell error => exact outside.elim
    | system error => exact absurd rfl (foreign error)
    | _ => rfl
  simp only [execute, filled, Bool.false_eq_true, if_false, Action.on_bind, Action.on_tryCatch, ran,
    passed]

end Recovery

namespace Reads

variable {status : Int}

theorem of_returned {own : Int} {last : Machine} (reads : Reads settings line command)
    (executed : (execute settings command).on (afterReading settings line machine) =
      (.ok own, last))
    (returned : (Execution.runOne settings line).on machine = (.ok status, after)) :
    status = own ∧ after = { last with lastStatus := own } := by
  rw [reads.runOne executed] at returned
  cases returned
  exact ⟨rfl, rfl⟩

/-- A line returns after a fault from outside only where the system has refused something. -/
theorem refused_of_returned {fault : Fault} {last : Machine} (reads : Reads settings line command)
    (named : command.argv ≠ [])
    (ran : (run settings command).on (afterReading settings line machine) = (.error fault, last))
    (outside : fault.IsOutside)
    (returned : (Execution.runOne settings line).on machine = (.ok status, after)) :
    ∃ error told, fault = .system error ∧ last.Logged told ∧ status = 126 ∧
      after = reported told (command.name ++ ": " ++ error.cause.reason) 126 := by
  by_cases refused : ∃ error, fault = .system error
  · obtain ⟨error, rfl⟩ := refused
    obtain ⟨told, logged, executed⟩ := execute_cannotExecute named ran
    obtain ⟨rfl, rfl⟩ := reads.of_returned executed returned
    exact ⟨error, told, rfl, logged, rfl, rfl⟩
  · have foreign : ∀ error, fault ≠ .system error := by
      intro error same
      exact refused ⟨error, same⟩
    have executed := execute_escaped named ran outside foreign
    rw [reads.runOne_escaped outside executed] at returned
    cases returned

end Reads

end Execution

end CommandShell
