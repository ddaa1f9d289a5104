import CommandShell.Proofs.Attempts
import CommandShell.Proofs.TargetWrites

/-! Redirected runs beside direct ones. The command does the same in both, and the bytes that
the user would see on the redirected stream end up in the target, even where the command has
read that file, has moved to another directory or has ended the session. The shell passes on the
other stream, so it comes out on that of the session, where a direct run of a program would have put
it on that of the process. -/

namespace CommandShell

def Machine.put (machine : Machine) (stream : Stream) (data : Bytes) : Machine :=
  match stream with
  | .output => { machine with console := machine.console.write data }
  | .error => { machine with console := machine.console.writeError data }

@[simp]
theorem Action.on_writeTo (machine : Machine) (stream : Stream) (data : Bytes) :
    (Action.writeTo stream data).on machine = (.ok (), machine.put stream data) := by
  cases stream <;> rfl

def Outcome.only (stream : Stream) (outcome : Outcome) : Outcome :=
  match stream with
  | .output => { outcome with errors := [] }
  | .error => { outcome with output := [] }

namespace Machine

variable (machine : Machine) (stream : Stream) (data : Bytes)

@[simp]
theorem world_put : (machine.put stream data).world = machine.world := by
  cases stream <;> rfl

@[simp]
theorem running_put : (machine.put stream data).running = machine.running := by
  cases stream <;> rfl

theorem put_spoke (outcome : Outcome) :
    Spoke machine (machine.put stream (Execution.streamOf outcome stream))
      (outcome.only stream).output (outcome.only stream).errors := by
  cases stream
  · exact (Wrote.write machine outcome.output).toSpoke
  · exact (Wrote.writeError machine outcome.errors).toSpoke

theorem put_wroteAt (outcome : Outcome) :
    WroteAt .session (Execution.streamOf (outcome.only stream)) machine
      (machine.put stream (Execution.streamOf outcome stream)) := by
  intro apart outlet other
  have untouched {shown : Bytes} : shown = shown ++
      if apart = true ∧ outlet ≠ .session then [] else [] := by
    rw [ite_self, List.append_nil]
  cases stream with
  | output =>
    cases other with
    | output => exact Console.shownAt_of_chunks (.written _) rfl apart outlet
    | error => exact untouched
  | error =>
    cases other with
    | output => exact untouched
    | error => exact Console.shownAt_of_chunks (.written _) rfl apart outlet

end Machine

/-- The target is written, or it is refused and the world keeps the directories that were made. -/
theorem writeRedirected_eq (command : String) (redirection : Redirection) (data : Bytes)
    (machine : Machine) :
    (writeRedirected command redirection data).on machine =
      match (machine.world.writeTarget redirection data).2 with
      | .error fault => (.error (redirection.refusal command fault),
          { machine with world := (machine.world.writeTarget redirection data).1 })
      | .ok () => (.ok (), { machine with world := (machine.world.writeTarget redirection data).1 }.emit
          (redirection.record data)) := by
  simp only [writeRedirected, Action.on_bind, Action.on_inspect, Action.on_setWorld,
    Action.on_ofExcept, id_eq]
  cases answered : (machine.world.writeTarget redirection data).2 with
  | error fault => simp only [Action.mapError_error]
  | ok value => simp only [Action.mapError_ok, Action.on_log]

namespace Execution

variable {settings : Settings} {command : CommandLine} {argv : List String}
  {redirection : Redirection} {outcome : Outcome} {machine done : Machine}

theorem streamOf_eq (outcome : Outcome) :
    streamOf outcome = bytesOn outcome.output outcome.errors := by
  funext stream
  cases stream <;> rfl

/-- The machine after one stream of an outcome has been passed on and the other one has been
handed to the target, whether it has taken the bytes or not. -/
def delivered (redirection : Redirection) (outcome : Outcome) (done : Machine) : Machine :=
  let forwarded := forwardedStream redirection
  let data := streamOf outcome redirection.stream
  { done.put forwarded (streamOf outcome forwarded) with
    world := (done.world.writeTarget redirection data).1 }

theorem deliver_eq (command : CommandLine) (redirection : Redirection) (outcome : Outcome)
    (done : Machine) :
    (deliver command redirection outcome).on done =
      match (done.world.writeTarget redirection (streamOf outcome redirection.stream)).2 with
      | .error fault => (.error (redirection.refusal command.name fault),
          delivered redirection outcome done)
      | .ok () => (.ok (), (delivered redirection outcome done).emit
          (redirection.record (streamOf outcome redirection.stream))) := by
  simp only [deliver, Action.on_bind, Action.on_writeTo, writeRedirected_eq, Machine.world_put,
    delivered]

theorem delivered_spoke (redirection : Redirection) (outcome : Outcome) (done : Machine) :
    Spoke done (delivered redirection outcome done)
      (outcome.only (forwardedStream redirection)).output
      (outcome.only (forwardedStream redirection)).errors := by
  have spoke := done.put_spoke (forwardedStream redirection) outcome
  simp only [delivered]
  exact ⟨spoke.output, spoke.errors, spoke.logger⟩

theorem delivered_wroteAt (redirection : Redirection) (outcome : Outcome) (done : Machine) :
    WroteAt .session (streamOf (outcome.only (forwardedStream redirection))) done
      (delivered redirection outcome done) :=
  (done.put_wroteAt (forwardedStream redirection) outcome).quiet (.of_console rfl)

theorem world_delivered (redirection : Redirection) (outcome : Outcome) (done : Machine) :
    (delivered redirection outcome done).world =
      (done.world.writeTarget redirection (streamOf outcome redirection.stream)).1 := by
  simp only [delivered]

theorem running_delivered (redirection : Redirection) (outcome : Outcome) (done : Machine) :
    (delivered redirection outcome done).running = done.running := by
  simp only [delivered, Machine.running_put]

variable {before : Machine}

/-- What a command leaves behind whose target has been written. -/
theorem delivered_written (quiet : WroteOn .session before done [] [])
    (written : (done.world.writeTarget redirection (streamOf outcome redirection.stream)).2 = .ok ())
    {after : Machine} (ended : after = (delivered redirection outcome done).emit
      (redirection.record (streamOf outcome redirection.stream))) :
    SpokeOn .session before after (outcome.only (forwardedStream redirection)).output
        (outcome.only (forwardedStream redirection)).errors ∧
      Stays done after ∧ ∃ location file, World.Receives before.logger redirection
        (streamOf outcome redirection.stream) before.world after.world location file := by
  subst ended
  generalize redirection.record (streamOf outcome redirection.stream) = record
  have recorded := (delivered redirection outcome done).emit_wrote record
  have unmoved := (delivered redirection outcome done).emit_stays record
  have spoke := delivered_spoke redirection outcome done
  obtain ⟨still, grown, location, file, received⟩ :=
    World.writeTarget_receives before.logger written
  refine ⟨⟨?_, ?_⟩, ⟨?_, ?_⟩, ?_⟩
  · simpa using (quiet.toSpoke.trans spoke).trans recorded.toSpoke
  · rw [← streamOf_eq]
    exact (quiet.outlet.quiet_of_nothing.wroteAt (delivered_wroteAt redirection outcome done)).quiet
      (.emit _ record)
  · rw [unmoved.running, running_delivered]
  · rw [unmoved.directory, world_delivered, still]
  · have whole := received.after_made (.of_kept quiet.files) grown still
    have files := recorded.files
    rw [spoke.logger, quiet.logger, world_delivered] at files
    have directory := unmoved.directory
    rw [world_delivered] at directory
    obtain ⟨last, received⟩ := whole.before_kept files directory
    exact ⟨location, last, received⟩

/-- What a command leaves behind whose target has been refused. -/
theorem delivered_refused {fault : Fault} (quiet : WroteOn .session before done [] [])
    (refused : (done.world.writeTarget redirection (streamOf outcome redirection.stream)).2 =
      .error fault) :
    SpokeOn .session before (delivered redirection outcome done)
        (outcome.only (forwardedStream redirection)).output
        (outcome.only (forwardedStream redirection)).errors ∧
      Stays done (delivered redirection outcome done) ∧
      World.DirectoriesMade before.logger (Path.directoryPart redirection.target) before.world
        (delivered redirection outcome done).world := by
  obtain ⟨still, made⟩ := World.writeTarget_refused before.logger refused
  refine ⟨⟨?_, ?_⟩, ⟨running_delivered _ _ _, ?_⟩, ?_⟩
  · simpa using quiet.toSpoke.trans (delivered_spoke redirection outcome done)
  · rw [← streamOf_eq]
    exact quiet.outlet.quiet_of_nothing.wroteAt (delivered_wroteAt redirection outcome done)
  · rw [world_delivered, still]
  · rw [world_delivered]
    exact (World.DirectoriesMade.of_kept quiet.files).trans made still

/-- A direct run ends as the command does, with all bytes on the streams. -/
theorem run_direct (settings : Settings) (machine : Machine) (named : argv ≠ []) :
    ∃ after, (run settings ⟨argv, none⟩).on machine =
        ((attempt settings ⟨argv, none⟩ false machine).2.result, after) ∧
      Shows (outletOf settings ⟨argv, none⟩ machine) (attempt settings ⟨argv, none⟩ false machine).1
        after (attempt settings ⟨argv, none⟩ false machine).2 :=
  runInherited_eq settings ⟨argv, none⟩ machine named

/-- A redirected run of a command that fails writes nothing at all. -/
theorem run_redirected_failed {fault : Fault} {report : Report} (named : argv ≠ [])
    (attempted : attempt settings ⟨argv, some redirection⟩ true machine = (done, report))
    (failed : report.result = .error fault) :
    (run settings ⟨argv, some redirection⟩).on machine = (.error fault, done) := by
  have captured := runCaptured_eq settings ⟨argv, some redirection⟩ machine named
  rw [attempted, Report.captured, failed] at captured
  simp only [run, Action.on_bind, captured, Except.map]

/-- A redirected run of a command that completes delivers its bytes. -/
theorem run_redirected (named : argv ≠ [])
    (attempted : attempt settings ⟨argv, some redirection⟩ true machine = (done, outcome.report)) :
    (run settings ⟨argv, some redirection⟩).on machine =
      match (done.world.writeTarget redirection (streamOf outcome redirection.stream)).2 with
      | .error fault => (.error (redirection.refusal (argv.headD "") fault),
          delivered redirection outcome done)
      | .ok () => (.ok outcome.status, (delivered redirection outcome done).emit
          (redirection.record (streamOf outcome redirection.stream))) := by
  have captured := runCaptured_eq settings ⟨argv, some redirection⟩ machine named
  have delivery := deliver_eq ⟨argv, some redirection⟩ redirection outcome done
  rw [attempted] at captured
  simp only [run, Action.on_bind, captured, Report.captured, Outcome.report, Except.map]
  rw [delivery]
  cases (done.world.writeTarget redirection (streamOf outcome redirection.stream)).2 <;> rfl

theorem execute_of_completed {status : Int} {after : Machine} (named : command.argv ≠ [])
    (ran : (run settings command).on machine = (.ok status, after)) :
    (execute settings command).on machine = (.ok status, { after with lastStatus := status }) := by
  have filled : command.argv.isEmpty = false := by simpa using named
  simp only [execute, filled, Bool.false_eq_true, if_false, Action.on_bind, Action.on_tryCatch, ran,
    rememberStatus, Action.on_modify, Action.on_pure]

end Execution

namespace Execution

def machineWithNote : Machine :=
  { world := ⟨{ owned := [], entries := [((1, ["note"]), .file ⟨.ofBytes [104, 105], false⟩)] }, .root⟩ }

end Execution

end CommandShell
