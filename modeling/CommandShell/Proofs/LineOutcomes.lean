import CommandShell.Proofs.LineRuns
import CommandShell.Proofs.RedirectedRuns
import CommandShell.Proofs.SilentLogs
import Mathlib.Logic.ExistsUnique

/-! What becomes of a line. Which of seven cases it is follows from its words and from what the
command does by itself, and each case leaves its own marks on streams, files and status. -/

namespace CommandShell

theorem CommandLine.argv_of_words {words : List String} {command : CommandLine}
    (valid : CommandLine.ofWords words = .ok command) :
    command.argv = CommandLine.commandWords words := by
  unfold CommandLine.ofWords at valid
  cases found : CommandLine.redirections words with
  | error error =>
    rw [found] at valid
    cases valid
  | ok redirections =>
    rw [found] at valid
    cases valid
    rfl

theorem CommandLine.argv_of_operator {first : String} {later : List String} {command : CommandLine}
    (operator : Operator.isWord first = true)
    (valid : CommandLine.ofWords (first :: later) = .ok command) : command.argv = [] := by
  rw [argv_of_words valid, commandWords, List.takeWhile_cons, operator]
  rfl

namespace Execution

inductive LineCase where
  | blank
  | rejected
  | operatorFirst
  | notFound
  | cannotExecute
  | notWritten
  | completed
  deriving DecidableEq, Repr

/-- How a line is settled. Each case has its condition, the status, and what is left behind,
log records aside. Only a program that runs directly writes on the streams of the process. A command
that is redirected shows nothing of its own if it fails. -/
inductive Settles (settings : Settings) (line : String) (before : Machine) :
    LineCase → (status : Int) → (after : Machine) → Prop where
  | blank {after : Machine}
      (words : tokenize line settings.config.quoteMode = .ok [])
      (wrote : WroteOn .session before after [] []) (stays : Stays before after)
      (remembered : after.lastStatus = before.lastStatus) :
      Settles settings line before .blank before.lastStatus after
  | rejected {error : ShellError} {after : Machine}
      (invalid : commandOfLine settings line = .error error)
      (wrote : WroteOn .session before after [] (Bytes.ofText (error.message ++ "\n")))
      (stays : Stays before after) (remembered : after.lastStatus = 2) :
      Settles settings line before .rejected 2 after
  | operatorFirst {first : String} {later : List String} {command : CommandLine} {after : Machine}
      (words : tokenize line settings.config.quoteMode = .ok (first :: later))
      (operator : Operator.isWord first = true)
      (valid : CommandLine.ofWords (first :: later) = .ok command)
      (wrote : WroteOn .session before after [] []) (stays : Stays before after)
      (remembered : after.lastStatus = 0) :
      Settles settings line before .operatorFirst 0 after
  | notFound {name : String} {arguments : List String} {redirection : Option Redirection}
      {after : Machine}
      (read : commandOfLine settings line = .ok ⟨name :: arguments, redirection⟩)
      (missing : before.world.resolve name settings.path = .notFound name)
      (wrote : WroteOn .session before after [] (Bytes.ofText (name ++ ": command not found" ++ "\n")))
      (stays : Stays before after) (remembered : after.lastStatus = 127) :
      Settles settings line before .notFound 127 after
  | cannotExecute {name : String} {arguments : List String} {done after : Machine}
      {output errors : Bytes} {error : SystemError}
      (read : commandOfLine settings line = .ok ⟨name :: arguments, none⟩)
      (attempted : attempt settings ⟨name :: arguments, none⟩ false
        (afterReading settings line before) = (done, ⟨output, errors, .error (.system error)⟩))
      (wrote : WroteOn .session before after output
        (errors ++ Bytes.ofText (name ++ ": " ++ error.cause.reason ++ "\n")))
      (stays : Stays done after) (remembered : after.lastStatus = 126) :
      Settles settings line before .cannotExecute 126 after
  | cannotExecuteRedirected {name : String} {arguments : List String} {redirection : Redirection}
      {done after : Machine} {output errors : Bytes} {error : SystemError}
      (read : commandOfLine settings line = .ok ⟨name :: arguments, some redirection⟩)
      (attempted : attempt settings ⟨name :: arguments, some redirection⟩ true
        (afterReading settings line before) = (done, ⟨output, errors, .error (.system error)⟩))
      (wrote : WroteOn .session before after []
        (Bytes.ofText (name ++ ": " ++ error.cause.reason ++ "\n")))
      (stays : Stays done after) (remembered : after.lastStatus = 126) :
      Settles settings line before .cannotExecute 126 after
  | notWritten {name : String} {arguments : List String} {redirection : Redirection}
      {done after : Machine} {outcome : Outcome} {error : SystemError}
      (read : commandOfLine settings line = .ok ⟨name :: arguments, some redirection⟩)
      (attempted : attempt settings ⟨name :: arguments, some redirection⟩ true
        (afterReading settings line before) = (done, outcome.report))
      (refused : (done.world.writeTarget redirection (streamOf outcome redirection.stream)).2 =
        .error (.system error))
      (spoke : SpokeOn .session before after (outcome.only (forwardedStream redirection)).output
        ((outcome.only (forwardedStream redirection)).errors ++ Bytes.ofText
          (name ++ ": " ++ redirection.target ++ ": " ++ error.cause.reason ++ "\n")))
      (made : World.DirectoriesMade before.logger (Path.directoryPart redirection.target)
        before.world after.world)
      (stays : Stays done after) (remembered : after.lastStatus = 1) :
      Settles settings line before .notWritten 1 after
  | completed {name : String} {arguments : List String} {done after : Machine} {outcome : Outcome}
      (read : commandOfLine settings line = .ok ⟨name :: arguments, none⟩)
      (attempted : attempt settings ⟨name :: arguments, none⟩ false
        (afterReading settings line before) = (done, outcome.report))
      (wrote : WroteOn (outletOf settings ⟨name :: arguments, none⟩ before) before after
        outcome.output outcome.errors)
      (stays : Stays done after) (remembered : after.lastStatus = outcome.status) :
      Settles settings line before .completed outcome.status after
  | completedRedirected {name : String} {arguments : List String} {redirection : Redirection}
      {done after : Machine} {outcome : Outcome} {location : Location} {file : File}
      (read : commandOfLine settings line = .ok ⟨name :: arguments, some redirection⟩)
      (attempted : attempt settings ⟨name :: arguments, some redirection⟩ true
        (afterReading settings line before) = (done, outcome.report))
      (written : (done.world.writeTarget redirection (streamOf outcome redirection.stream)).2 =
        .ok ())
      (spoke : SpokeOn .session before after (outcome.only (forwardedStream redirection)).output
        (outcome.only (forwardedStream redirection)).errors)
      (received : World.Receives before.logger redirection
        (streamOf outcome redirection.stream) before.world after.world location file)
      (stays : Stays done after) (remembered : after.lastStatus = outcome.status) :
      Settles settings line before .completed outcome.status after

variable {settings : Settings} {line : String} {before machine middle after : Machine}
  {command : CommandLine}

theorem rejected_settles {error : ShellError} {status : Int}
    (invalid : commandOfLine settings line = .error error)
    (returned : (runOne settings line).on before = (.ok status, after)) :
    Settles settings line before .rejected status after := by
  obtain ⟨ready, logged, ran⟩ := runOne_rejected before invalid
  rw [ran] at returned
  cases returned
  exact .rejected invalid ((logged.wroteOn _).reported _ _) (logged.stays.reported _ _) rfl

theorem blank_settles {status : Int} (words : tokenize line settings.config.quoteMode = .ok [])
    (returned : (runOne settings line).on before = (.ok status, after)) :
    Settles settings line before .blank status after := by
  obtain ⟨last, ran, logged⟩ := runOne_blank before words
  rw [ran] at returned
  cases returned
  exact .blank words (logged.wroteOn _) logged.stays logged.lastStatus

theorem operatorFirst_settles {redirection : Option Redirection} {status : Int}
    (reads : Reads settings line ⟨[], redirection⟩)
    (returned : (runOne settings line).on before = (.ok status, after)) :
    Settles settings line before .operatorFirst status after := by
  obtain ⟨words, split, filled, valid⟩ := reads.exists_words
  obtain ⟨first, later, rfl⟩ := List.exists_cons_of_ne_nil filled
  have operator : Operator.isWord first = true := by
    have nameless := CommandLine.argv_of_words valid
    rw [CommandLine.commandWords, List.takeWhile_cons] at nameless
    cases word : Operator.isWord first with
    | true => rfl
    | false => simp only [word, Bool.not_false, if_true, reduceCtorEq] at nameless
  have executed : (execute settings ⟨[], redirection⟩).on (afterReading settings line before) =
      (.ok 0, afterReading settings line before) := by
    simp only [execute, List.isEmpty_nil, if_true, Action.on_pure]
  obtain ⟨rfl, rfl⟩ := reads.of_returned executed returned
  have logged := reads.logged before
  exact .operatorFirst split operator valid ((logged.wroteOn _).remembering 0)
    (logged.stays.remembering 0) rfl

section Named

variable {name : String} {arguments : List String} {redirection : Option Redirection} {status : Int}

theorem Reads.attempt_wroteOn (reads : Reads settings line command) (before : Machine)
    (place : Outlet) (capture : Bool) : WroteOn place before
      (attempt settings command capture (afterReading settings line before)).1 [] [] :=
  ((reads.logged before).wroteOn place).silent_left (Execution.attempt_wroteOn _ _ _ _ _)

/-- Reading a line does not change where its command writes. -/
theorem Reads.outletOf_eq (reads : Reads settings line command) (before : Machine) :
    outletOf settings command (afterReading settings line before) =
      outletOf settings command before := by
  rw [outletOf, outletOf, (reads.logged before).resolve]

/-- Reading a line does not change what its command stands for. -/
theorem attempt_known (reads : Reads settings line command)
    (known : ∀ other, before.world.resolve command.name settings.path ≠ .notFound other)
    (capture : Bool) :
    Fault.Outside (attempt settings command capture (afterReading settings line before)).2.result := by
  apply attempt_outside
  intro other resolved
  exact known other (((reads.logged before).resolve _ _).symm.trans resolved)

theorem attempt_missing (reads : Reads settings line ⟨name :: arguments, redirection⟩)
    (missing : before.world.resolve name settings.path = .notFound name)
    (other : Option Redirection) (capture : Bool) :
    attempt settings ⟨name :: arguments, other⟩ capture (afterReading settings line before) =
      ((afterReading settings line before).emit ((Resolution.notFound name).record name),
        .ofFault (.shell (.commandNotFound name))) := by
  have still := ((reads.logged before).resolve name settings.path).trans missing
  simp only [attempt, CommandLine.name, List.headD_cons, still]

theorem notFound_settles (reads : Reads settings line ⟨name :: arguments, redirection⟩)
    (missing : before.world.resolve name settings.path = .notFound name)
    (returned : (runOne settings line).on before = (.ok status, after)) :
    Settles settings line before .notFound status after := by
  have named : (name :: arguments) ≠ [] := List.cons_ne_nil _ _
  let resolved := (afterReading settings line before).emit ((Resolution.notFound name).record name)
  have told : before.Logged resolved := (reads.logged before).trans (.emit _ _)
  have attempted := attempt_missing reads missing
  have ran : ∃ last, (run settings ⟨name :: arguments, redirection⟩).on
        (afterReading settings line before) = (.error (.shell (.commandNotFound name)), last) ∧
      WroteOn .session before last [] [] ∧ Stays before last := by
    cases redirection with
    | none =>
      obtain ⟨last, ran, shows⟩ := run_direct settings (afterReading settings line before) named
      have failed := shows_of_failed shows (congrArg (·.2.result) (attempted none false))
      rw [attempted] at ran failed
      exact ⟨last, ran, (told.wroteOn _).silent_left failed.wrote, told.stays.trans failed.stays⟩
    | some redirection =>
      exact ⟨resolved, run_redirected_failed named (attempted _ _) rfl, told.wroteOn _, told.stays⟩
  obtain ⟨last, ran, wrote, stays⟩ := ran
  obtain ⟨rfl, rfl⟩ := reads.of_returned (execute_notFound named ran) returned
  exact .notFound reads.command missing (wrote.reported _ 127) (stays.reported _ 127) rfl

theorem direct_settles (reads : Reads settings line ⟨name :: arguments, none⟩)
    (known : ∀ other, before.world.resolve name settings.path ≠ .notFound other)
    (returned : (runOne settings line).on before = (.ok status, after)) :
    ∃ outcome, Settles settings line before outcome status after := by
  have named : (name :: arguments) ≠ [] := List.cons_ne_nil _ _
  have outside := attempt_known reads known false
  have quiet := fun place => reads.attempt_wroteOn before place false
  obtain ⟨last, ran, shows⟩ := run_direct settings (afterReading settings line before) named
  have stays : Stays _ last := shows.stays
  have failed (fault : Fault) : (attempt settings ⟨name :: arguments, none⟩ false
      (afterReading settings line before)).2.result = .error fault → Shows .session _ last _ :=
    shows_of_failed shows
  rw [reads.outletOf_eq] at shows
  rcases attempted : attempt settings ⟨name :: arguments, none⟩ false
    (afterReading settings line before) with ⟨done, report⟩
  rw [attempted] at outside quiet ran shows stays failed
  cases ended : report.result with
  | ok own =>
    rw [ended] at ran
    obtain ⟨rfl, rfl⟩ := reads.of_returned (execute_of_completed named ran) returned
    obtain ⟨outcome, rfl⟩ := Report.of_completed ended
    obtain rfl : outcome.status = status := Except.ok.inj ended
    exact ⟨.completed, .completed reads.command attempted
      (((quiet _).silent_left shows.wrote).remembering _) (stays.remembering _) rfl⟩
  | error fault =>
    have wrote := (quiet _).silent_left (failed fault ended).wrote
    rw [ended] at ran
    obtain ⟨error, told, rfl, logged, rfl, rfl⟩ :=
      reads.refused_of_returned named ran (outside fault ended) returned
    obtain ⟨output, errors, result⟩ := report
    obtain rfl : result = .error (.system error) := ended
    exact ⟨.cannotExecute, .cannotExecute reads.command attempted
      ((wrote.silent_right (logged.wroteOn _)).reported _ 126)
      ((stays.trans logged.stays).reported _ 126) rfl⟩

theorem redirected_settles {redirection : Redirection}
    (reads : Reads settings line ⟨name :: arguments, some redirection⟩)
    (known : ∀ other, before.world.resolve name settings.path ≠ .notFound other)
    (returned : (runOne settings line).on before = (.ok status, after)) :
    ∃ outcome, Settles settings line before outcome status after := by
  have named : (name :: arguments) ≠ [] := List.cons_ne_nil _ _
  have outside := attempt_known reads known true
  have quiet := reads.attempt_wroteOn before .session true
  rcases attempted : attempt settings ⟨name :: arguments, some redirection⟩ true
    (afterReading settings line before) with ⟨done, report⟩
  rw [attempted] at outside quiet
  cases ended : report.result with
  | error fault =>
    have ran := run_redirected_failed named attempted ended
    obtain ⟨error, told, rfl, logged, rfl, rfl⟩ :=
      reads.refused_of_returned named ran (outside fault ended) returned
    obtain ⟨output, errors, result⟩ := report
    obtain rfl : result = .error (.system error) := ended
    exact ⟨.cannotExecute, .cannotExecuteRedirected reads.command attempted
      ((quiet.silent_right (logged.wroteOn _)).reported _ 126) (logged.stays.reported _ 126) rfl⟩
  | ok own =>
    obtain ⟨outcome, rfl⟩ := Report.of_completed ended
    have ran := run_redirected named attempted
    cases answer : (done.world.writeTarget redirection (streamOf outcome redirection.stream)).2 with
    | ok value =>
      rw [answer] at ran
      obtain ⟨spoke, stays, location, file, received⟩ := delivered_written quiet answer rfl
      generalize (delivered redirection outcome done).emit _ = last at ran spoke stays received
      obtain ⟨rfl, rfl⟩ := reads.of_returned (execute_of_completed named ran) returned
      exact ⟨.completed, .completedRedirected reads.command attempted answer (spoke.remembering _)
        received (stays.remembering _) rfl⟩
    | error fault =>
      rw [answer] at ran
      obtain ⟨spoke, stays, made⟩ := delivered_refused quiet answer
      generalize delivered redirection outcome done = last at ran spoke stays made
      by_cases refused : ∃ error, fault = .system error
      · obtain ⟨error, rfl⟩ := refused
        obtain ⟨rfl, rfl⟩ := reads.of_returned (execute_notWritten named ran) returned
        exact ⟨.notWritten, .notWritten reads.command attempted answer (spoke.reported _ 1) made
          (stays.reported _ 1) rfl⟩
      · have same : redirection.refusal name fault = fault := by
          cases fault with
          | system error => exact absurd ⟨error, rfl⟩ refused
          | _ => rfl
        dsimp only [List.headD_cons] at ran
        rw [same] at ran
        have foreign := World.writeTarget_outside _ _ _ fault answer
        obtain ⟨error, told, rfl, -⟩ := reads.refused_of_returned named ran foreign returned
        exact absurd ⟨error, rfl⟩ refused

end Named

def targetCase : Except Fault Unit → LineCase
  | .error _ => .notWritten
  | .ok () => .completed

def commandCase (redirection : Option Redirection) (done : Machine) (report : Report) : LineCase :=
  match report.result, redirection with
  | .error _, _ => .cannotExecute
  | .ok _, none => .completed
  | .ok status, some redirection =>
    let outcome : Outcome := ⟨report.output, report.errors, status⟩
    targetCase (done.world.writeTarget redirection (streamOf outcome redirection.stream)).2

theorem commandCase_report (redirection : Redirection) (done : Machine) (outcome : Outcome) :
    commandCase (some redirection) done outcome.report =
      targetCase (done.world.writeTarget redirection (streamOf outcome redirection.stream)).2 := by
  simp only [commandCase, Outcome.report]

def lineCase (settings : Settings) (line : String) (before : Machine) : LineCase :=
  match tokenize line settings.config.quoteMode with
  | .ok [] => .blank
  | _ =>
    match commandOfLine settings line with
    | .error _ => .rejected
    | .ok ⟨[], _⟩ => .operatorFirst
    | .ok ⟨name :: arguments, redirection⟩ =>
      if before.world.resolve name settings.path = .notFound name then .notFound
      else
        let (done, report) := attempt settings ⟨name :: arguments, redirection⟩ redirection.isSome
          (afterReading settings line before)
        commandCase redirection done report

section Cases

variable {name : String} {arguments : List String} {redirection : Option Redirection}

theorem lineCase_command
    (read : commandOfLine settings line = .ok ⟨name :: arguments, redirection⟩) :
    lineCase settings line before =
      if before.world.resolve name settings.path = .notFound name then .notFound
      else commandCase redirection
        (attempt settings ⟨name :: arguments, redirection⟩ redirection.isSome
          (afterReading settings line before)).1
        (attempt settings ⟨name :: arguments, redirection⟩ redirection.isSome
          (afterReading settings line before)).2 := by
  obtain ⟨words, split, filled, -⟩ := (Reads.of_named read).exists_words
  obtain ⟨first, later, rfl⟩ := List.exists_cons_of_ne_nil filled
  simp only [lineCase, split, read]

/-- A command that stands for nothing ends with an error of the shell. -/
theorem lineCase_attempted {done : Machine} {report : Report}
    (read : commandOfLine settings line = .ok ⟨name :: arguments, redirection⟩)
    (attempted : attempt settings ⟨name :: arguments, redirection⟩ redirection.isSome
      (afterReading settings line before) = (done, report))
    (outside : Fault.Outside report.result) :
    lineCase settings line before = commandCase redirection done report := by
  have known : before.world.resolve name settings.path ≠ .notFound name := by
    intro missing
    rw [attempt_missing (.of_named read) missing] at attempted
    cases attempted
    exact outside _ rfl
  rw [lineCase_command read, if_neg known, attempted]

end Cases

theorem lineCase_of_settles {outcome : LineCase} {status : Int}
    (settles : Settles settings line before outcome status after) :
    lineCase settings line before = outcome := by
  cases settles with
  | blank words => rw [lineCase, words]
  | rejected invalid =>
    cases split : tokenize line settings.config.quoteMode with
    | error error => rw [lineCase, split, invalid]
    | ok words =>
      cases words with
      | nil =>
        rw [commandOfLine, split] at invalid
        cases invalid
      | cons first later => rw [lineCase, split, invalid]
  | @operatorFirst first later command _ words operator valid =>
    obtain ⟨argv, redirection⟩ := command
    obtain rfl : argv = [] := CommandLine.argv_of_operator operator valid
    have read : commandOfLine settings line = .ok ⟨[], redirection⟩ := by
      rw [commandOfLine, words]
      exact valid
    rw [lineCase, words, read]
  | notFound read missing => rw [lineCase_command read, if_pos missing]
  | cannotExecute read attempted =>
    exact lineCase_attempted read attempted (.error trivial)
  | cannotExecuteRedirected read attempted =>
    exact lineCase_attempted read attempted (.error trivial)
  | notWritten read attempted refused =>
    rw [lineCase_attempted read attempted (.ok _), commandCase_report, refused, targetCase]
  | completed read attempted =>
    exact lineCase_attempted read attempted (.ok _)
  | completedRedirected read attempted written =>
    rw [lineCase_attempted read attempted (.ok _), commandCase_report, written, targetCase]

theorem settles_of_returned {status : Int}
    (returned : (runOne settings line).on before = (.ok status, after)) :
    ∃ outcome, Settles settings line before outcome status after := by
  by_cases blank : tokenize line settings.config.quoteMode = .ok []
  · exact ⟨.blank, blank_settles blank returned⟩
  cases read : commandOfLine settings line with
  | error error => exact ⟨.rejected, rejected_settles read returned⟩
  | ok command =>
    have reads : Reads settings line command := ⟨blank, read⟩
    obtain ⟨argv, redirection⟩ := command
    cases argv with
    | nil => exact ⟨.operatorFirst, operatorFirst_settles reads returned⟩
    | cons name arguments =>
      by_cases missing : before.world.resolve name settings.path = .notFound name
      · exact ⟨.notFound, notFound_settles reads missing returned⟩
      have known : ∀ other, before.world.resolve name settings.path ≠ .notFound other := by
        intro other resolved
        obtain rfl := World.resolve_of_notFound resolved
        exact missing resolved
      cases redirection with
      | none => exact direct_settles reads known returned
      | some redirection => exact redirected_settles reads known returned

/-- Whether what is said of a step aside from log records holds of it exactly. -/
structure Exact (before after : Machine) : Prop where
  errors : ∀ {output errors}, Spoke before after output errors →
    after.console.errorBytes = before.console.errorBytes ++ errors
  entries : ∀ {location first second}, before.logger.Extends location first second → second = first

theorem exact_of_silent (silent : before.logger.IsSilent)
    (ended : ((runOne settings line).on before).2 = after) : Exact before after := by
  have unrecorded := silent_rules.runOne settings line before silent
  rw [ended] at unrecorded
  exact ⟨unrecorded.errorBytes, silent.eq_of_extends⟩

/-- A line that returns is settled in exactly one of the seven ways, log records aside. Where no
records are kept, all that is said of it holds exactly. -/
theorem runOne_settles {status : Int}
    (returned : (runOne settings line).on before = (.ok status, after)) :
    (∃! outcome, Settles settings line before outcome status after) ∧
      (before.logger.IsSilent → Exact before after) := by
  obtain ⟨outcome, settles⟩ := settles_of_returned returned
  refine ⟨⟨outcome, settles, ?_⟩, fun silent => exact_of_silent silent (congrArg Prod.snd returned)⟩
  intro other also
  exact (lineCase_of_settles also).symm.trans (lineCase_of_settles settles)

theorem runOne_settles_refused :
    ∃ after, (runOne {} "echo hi > .").on machineWithNote = (.ok 1, after) ∧
      (∃! outcome, Settles {} "echo hi > ." machineWithNote outcome 1 after) ∧
      Exact machineWithNote after := by
  have read : commandOfLine {} "echo hi > ." =
    .ok ⟨["echo", "hi"], some ⟨.output, .overwrite, "."⟩⟩ := rfl
  have unlogged : afterReading {} "echo hi > ." machineWithNote = machineWithNote := rfl
  have executed : ((execute {} ⟨["echo", "hi"], some ⟨.output, .overwrite, "."⟩⟩).on
    (afterReading {} "echo hi > ." machineWithNote)).1 = .ok 1 := by
    rw [unlogged]
    rfl
  have returned := (Reads.of_named read).runOne (Prod.ext executed rfl)
  obtain ⟨settles, precise⟩ := runOne_settles returned
  exact ⟨_, returned, settles, precise Log.Logger.isSilent_silent⟩

def machineWithDebugLog : Machine where
  world := ⟨{ owned := [], entries := [((1, ["log"]), .file { content := {} })] }, .root⟩
  logger := { level := 10, handler := some ⟨.file (some ["log"]), 10⟩, propagates := false }

/-- A line that is rejected has been split before, and the log file tells so. -/
theorem rejected_logged : ∃ after,
    commandOfLine {} "echo >" = .error (.redirectionSyntax ">" "newline") ∧
      (runOne {} "echo >").on machineWithDebugLog = (.ok 2, after) ∧
      after.world.files.get? ["log"] ≠ machineWithDebugLog.world.files.get? ["log"] := by
  refine ⟨((runOne {} "echo >").on machineWithDebugLog).2, rfl, Prod.ext rfl rfl, ?_⟩
  intro same
  have counted := congrArg (fun entry => (Entry.asFile entry).content.pieces.length) same
  exact absurd counted (show ¬(1 = 0) by decide)

end Execution

end CommandShell
