import CommandShell.Proofs.LineOutcomes
import CommandShell.Proofs.LineText
import CommandShell.Proofs.Operators

/-! What a line can do to the shell that runs it. It returns a status and leaves it behind, or
else a text that was handed to the system cannot be given to it. So lines without such texts can
be run one after the other, whatever becomes of each of them. -/

namespace CommandShell

def Fault.IsRecovered : Fault → Prop
  | .shell (.commandNotFound _) | .shell (.redirectionWrite _ _ _) | .system _ => True
  | _ => False

open Fault (Only Arises)

namespace Execution

/-- Why a line does not return: the character zero in the line or the settings, a variable without
a proper name, or slashes enough in the line for a target that lies too deep. -/
inductive Stops (settings : Settings) (line : String) : Fault → Prop where
  | nullCharacter (held : World.hasNull line = true ∨ settings.HoldsNull) :
      Stops settings line .nullCharacter
  | variableName (misnamed : settings.Misnames) : Stops settings line .variableName
  | targetTooDeep (deep : World.maxDirectories ≤ line.toList.count '/') :
      Stops settings line .targetTooDeep

variable {settings : Settings} {line : String} {command : CommandLine} {before after : Machine}

namespace Reads

theorem argument_of_line {word : String} (reads : Reads settings line command)
    (member : word ∈ command.argv) : word.toList.Sublist line.toList := by
  obtain ⟨words, split, -, valid⟩ := reads.exists_words
  rw [CommandLine.argv_of_words valid] at member
  exact word_sublist split ((List.takeWhile_sublist _).subset member)

theorem target_of_line {redirection : Redirection} (reads : Reads settings line command)
    (directed : command.redirection = some redirection) :
    redirection.target.toList.Sublist line.toList := by
  obtain ⟨words, split, -, valid⟩ := reads.exists_words
  have reading := Proofs.Operators.ofWords_reading words
  rw [valid] at reading
  cases reading with
  | plain => cases directed
  | redirected targeted divided spelled free place =>
    cases directed
    apply word_sublist split
    rw [place.divided]
    exact List.mem_append_right _ (List.mem_cons_of_mem _ List.mem_cons_self)

end Reads

theorem recovered_or_stops {zero misnamed deep : Prop} {fault : Fault}
    (arises : Arises zero misnamed deep fault)
    (held : zero → World.hasNull line = true ∨ settings.HoldsNull)
    (unnamed : misnamed → settings.Misnames)
    (far : deep → World.maxDirectories ≤ line.toList.count '/') :
    fault.IsRecovered ∨ Stops settings line fault := by
  cases arises with
  | system error => exact .inl trivial
  | nullCharacter zero => exact .inr (.nullCharacter (held zero))
  | variableName misnamed => exact .inr (.variableName (unnamed misnamed))
  | targetTooDeep deep => exact .inr (.targetTooDeep (far deep))

theorem attempt_recovered (reads : Reads settings line command) (capture : Bool)
    (machine : Machine) :
    Only (fun fault => fault.IsRecovered ∨ Stops settings line fault)
      (attempt settings command capture machine).2.result := by
  refine (attempt_arises settings command capture machine).mono ?_
  rintro fault (⟨name, rfl, -⟩ | arises)
  · exact .inl trivial
  · refine recovered_or_stops arises ?_ id False.elim
    rintro (session | ⟨word, member, held⟩)
    · exact .inr session
    · exact .inl (World.hasNull_of_sublist (reads.argument_of_line member) held)

theorem refusal_recovered {redirection : Redirection} (reads : Reads settings line command)
    (directed : command.redirection = some redirection) (world : World) (data : Bytes)
    {fault : Fault} (refused : (world.writeTarget redirection data).2 = .error fault) :
    (redirection.refusal command.name fault).IsRecovered ∨
      Stops settings line (redirection.refusal command.name fault) := by
  have within := reads.target_of_line directed
  cases world.writeTarget_arises redirection data fault refused with
  | system error => exact .inl trivial
  | nullCharacter held => exact .inr (.nullCharacter (.inl (World.hasNull_of_sublist within held)))
  | variableName impossible => exact impossible.elim
  | targetTooDeep deep => exact .inr (.targetTooDeep (deep.trans (within.count_le '/')))

/-- A run that fails is reported, or else it stops the line. -/
theorem run_recovered (reads : Reads settings line command) (named : command.argv ≠ [])
    (machine : Machine) :
    Only (fun fault => fault.IsRecovered ∨ Stops settings line fault)
      ((run settings command).on machine).1 := by
  obtain ⟨argv, redirection⟩ := command
  cases redirection with
  | none =>
    obtain ⟨after, ran, -⟩ := run_direct settings machine named
    rw [ran]
    exact attempt_recovered reads false machine
  | some redirection =>
    have failures := attempt_recovered reads true machine
    rcases attempted : attempt settings ⟨argv, some redirection⟩ true machine with ⟨done, report⟩
    rw [attempted] at failures
    cases ended : report.result with
    | error fault =>
      rw [run_redirected_failed named attempted ended]
      exact .error (failures fault ended)
    | ok status =>
      obtain ⟨outcome, rfl⟩ := Report.of_completed ended
      rw [run_redirected named attempted]
      cases answer : (done.world.writeTarget redirection
        (streamOf outcome redirection.stream)).2 with
      | ok value => exact .ok _
      | error fault => exact .error (refusal_recovered reads rfl _ _ answer)

theorem Stops.isOutside {fault : Fault} (stops : Stops settings line fault) : fault.IsOutside := by
  cases stops <;> trivial

theorem execute_returns {fault : Fault} {middle : Machine} (named : command.argv ≠ [])
    (ran : (run settings command).on before = (.error fault, middle))
    (recovered : fault.IsRecovered) :
    ∃ status after, (execute settings command).on before = (.ok status, after) := by
  unfold Fault.IsRecovered at recovered
  split at recovered
  · exact ⟨_, _, execute_notFound named ran⟩
  · exact ⟨_, _, execute_notWritten named ran⟩
  · obtain ⟨told, -, executed⟩ := execute_cannotExecute named ran
    exact ⟨_, _, executed⟩
  · exact recovered.elim

theorem execute_escaped_of_stops {fault : Fault} {middle : Machine} (named : command.argv ≠ [])
    (ran : (run settings command).on before = (.error fault, middle))
    (stops : Stops settings line fault) :
    (execute settings command).on before = (.error fault, middle) := by
  apply execute_escaped named ran stops.isOutside
  rintro error rfl
  cases stops

theorem execute_returns_or_stops (reads : Reads settings line command) (machine : Machine) :
    (∃ status after, (execute settings command).on machine = (.ok status, after)) ∨
      ∃ fault after, (execute settings command).on machine = (.error fault, after) ∧
        Stops settings line fault := by
  by_cases named : command.argv = []
  · refine .inl ⟨0, machine, ?_⟩
    simp only [execute, named, List.isEmpty_nil, if_true, Action.on_pure]
  · have failures := run_recovered reads named machine
    rcases ran : (run settings command).on machine with ⟨fault | status, middle⟩
    · rw [ran] at failures
      rcases failures fault rfl with recovered | stops
      · exact .inl (execute_returns named ran recovered)
      · exact .inr ⟨fault, middle, execute_escaped_of_stops named ran stops, stops⟩
    · exact .inl ⟨status, _, execute_of_completed named ran⟩

theorem runOne_returns_or_stops (settings : Settings) (line : String) (before : Machine) :
    (∃ status after, (runOne settings line).on before = (.ok status, after) ∧
      after.lastStatus = status) ∨
    ∃ fault after, (runOne settings line).on before = (.error fault, after) ∧
      Stops settings line fault := by
  by_cases blank : tokenize line settings.config.quoteMode = .ok []
  · obtain ⟨after, ran, logged⟩ := runOne_blank before blank
    exact .inl ⟨_, after, ran, logged.lastStatus⟩
  cases read : commandOfLine settings line with
  | error error =>
    obtain ⟨ready, -, ran⟩ := runOne_rejected before read
    exact .inl ⟨2, _, ran, rfl⟩
  | ok command =>
    have reads : Reads settings line command := ⟨blank, read⟩
    obtain ⟨status, after, executed⟩ | ⟨fault, after, executed, stops⟩ :=
      execute_returns_or_stops reads (afterReading settings line before)
    · exact .inl ⟨status, _, reads.runOne executed, rfl⟩
    · exact .inr ⟨fault, after, reads.runOne_escaped stops.isOutside executed, stops⟩

/-- A line without the character zero, and without a target that lies too deep, returns where nothing
of the session stands in its way. -/
theorem runOne_returns (before : Machine) (proper : ¬settings.HoldsNull)
    (named : ¬settings.Misnames) (free : World.hasNull line = false)
    (shallow : line.toList.count '/' < World.maxDirectories) :
    ∃ status after, (runOne settings line).on before = (.ok status, after) := by
  obtain ⟨status, after, returned, -⟩ | ⟨fault, after, -, stops⟩ :=
    runOne_returns_or_stops settings line before
  · exact ⟨status, after, returned⟩
  · cases stops with
    | nullCharacter held =>
      rw [free] at held
      exact absurd held (by simp [proper])
    | variableName misnamed => exact absurd misnamed named
    | targetTooDeep deep => exact absurd deep (Nat.not_le.mpr shallow)

structure Told (settings : Settings) (line : String) (status : Int) : Prop where
  rejected : ∀ error, commandOfLine settings line = .error error → status = 2
  operatorFirst : ∀ first later command,
    tokenize line settings.config.quoteMode = .ok (first :: later) →
    Operator.isWord first = true → commandOfLine settings line = .ok command → status = 0

theorem told_of_returned {status : Int}
    (returned : (runOne settings line).on before = (.ok status, after)) :
    Told settings line status where
  rejected error invalid := by
    cases rejected_settles invalid returned
    rfl
  operatorFirst first later command split operator valid := by
    have reads : Reads settings line command := ⟨by simp [split], valid⟩
    obtain ⟨argv, redirection⟩ := command
    obtain ⟨words, same, -, read⟩ := reads.exists_words
    obtain rfl : words = first :: later := Except.ok.inj (same.symm.trans split)
    obtain rfl : argv = [] := CommandLine.argv_of_operator operator read
    cases operatorFirst_settles reads returned
    rfl

/-- The status that is remembered after lines have been run: that of the last one with words, or
that of before. -/
inductive Remembered (settings : Settings) (initial : Int) (ran : List (String × Int)) :
    Int → Prop where
  | initial (blank : ∀ entry ∈ ran, tokenize entry.1 settings.config.quoteMode = .ok []) :
      Remembered settings initial ran initial
  | last {earlier later : List (String × Int)} {line : String} {status : Int}
      (divided : ran = earlier ++ (line, status) :: later)
      (filled : tokenize line settings.config.quoteMode ≠ .ok [])
      (blank : ∀ entry ∈ later, tokenize entry.1 settings.config.quoteMode = .ok []) :
      Remembered settings initial ran status

theorem Remembered.cons_blank {initial final status : Int} {ran : List (String × Int)}
    (remembered : Remembered settings initial ran final)
    (blank : tokenize line settings.config.quoteMode = .ok []) :
    Remembered settings initial ((line, status) :: ran) final := by
  cases remembered with
  | initial rest => exact .initial (List.forall_mem_cons.mpr ⟨blank, rest⟩)
  | @last earlier later other _ divided filled rest =>
    have whole : (line, status) :: ran = ((line, status) :: earlier) ++ (other, final) :: later :=
      congrArg ((line, status) :: ·) divided
    exact .last whole filled rest

theorem Remembered.cons_filled {initial final status : Int} {ran : List (String × Int)}
    (remembered : Remembered settings status ran final)
    (filled : tokenize line settings.config.quoteMode ≠ .ok []) :
    Remembered settings initial ((line, status) :: ran) final := by
  cases remembered with
  | initial blank => exact .last (List.nil_append _).symm filled blank
  | @last earlier later other _ divided full rest =>
    have whole : (line, status) :: ran = ((line, status) :: earlier) ++ (other, final) :: later :=
      congrArg ((line, status) :: ·) divided
    exact .last whole full rest

theorem mapM_runOne_cons {status : Int} {middle : Machine} (lines : List String)
    (returned : (runOne settings line).on before = (.ok status, middle)) :
    ((line :: lines).mapM (runOne settings)).on before =
      match (lines.mapM (runOne settings)).on middle with
      | (.ok statuses, after) => (.ok (status :: statuses), after)
      | (.error fault, after) => (.error fault, after) := by
  simp only [List.mapM_cons, Action.on_bind, returned]
  rcases (lines.mapM (runOne settings)).on middle with ⟨fault | statuses, after⟩ <;> rfl

theorem mapM_runOne_stopped {fault : Fault} {middle : Machine} (lines : List String)
    (stopped : (runOne settings line).on before = (.error fault, middle)) :
    ((line :: lines).mapM (runOne settings)).on before = (.error fault, middle) := by
  simp only [List.mapM_cons, Action.on_bind, stopped]

/-- Each line begins with what the one before has left behind. -/
theorem mapM_runOne_returns {lines : List String} (proper : ¬settings.HoldsNull)
    (named : ¬settings.Misnames) (free : ∀ line ∈ lines, World.hasNull line = false)
    (shallow : ((lines.mapM (runOne settings)).on before).1 ≠ .error .targetTooDeep) :
    ∃ statuses after, (lines.mapM (runOne settings)).on before = (.ok statuses, after) ∧
      statuses.length = lines.length ∧
      Remembered settings before.lastStatus (lines.zip statuses) after.lastStatus ∧
      ∀ line status, (line, status) ∈ lines.zip statuses → Told settings line status := by
  induction lines generalizing before with
  | nil => exact ⟨[], before, rfl, rfl, .initial (by simp), by simp⟩
  | cons line lines ih =>
    obtain ⟨first, others⟩ := List.forall_mem_cons.mp free
    obtain ⟨status, middle, returned, left⟩ | ⟨fault, middle, stopped, stops⟩ :=
      runOne_returns_or_stops settings line before
    · have ran := mapM_runOne_cons lines returned
      -- A target that lies too deep for a later line would end all of them.
      have rest : ((lines.mapM (runOne settings)).on middle).1 ≠ .error .targetTooDeep := by
        intro deep
        rw [ran] at shallow
        rcases later : (lines.mapM (runOne settings)).on middle with ⟨fault | statuses, after⟩
        · rw [later] at deep shallow
          exact shallow deep
        · rw [later] at deep
          cases deep
      obtain ⟨statuses, after, later, long, remembered, told⟩ := ih others rest
      rw [later] at ran
      refine ⟨status :: statuses, after, ran, congrArg (· + 1) long, ?_, ?_⟩
      · by_cases blank : tokenize line settings.config.quoteMode = .ok []
        · have kept : middle.lastStatus = before.lastStatus := by
            obtain ⟨last, silent, logged⟩ := runOne_blank before blank
            cases silent.symm.trans returned
            exact logged.lastStatus
          rw [kept] at remembered
          exact remembered.cons_blank blank
        · rw [left] at remembered
          exact remembered.cons_filled blank
      · intro other own member
        rcases List.mem_cons.mp member with same | member
        · cases same
          exact told_of_returned returned
        · exact told other own member
    · rw [mapM_runOne_stopped lines stopped] at shallow
      cases stops with
      | nullCharacter held =>
        rcases held with held | held
        · exact absurd held (by simp [first])
        · exact absurd held proper
      | variableName misnamed => exact absurd misnamed named
      | targetTooDeep => exact absurd rfl shallow

/-- A line returns the status that it leaves behind, or a text of it or of the session cannot be
given to the system. So lines without such texts all return while no target lies too deep, and the
status at the end is that of the last one with words. -/
theorem lines_return (settings : Settings) :
    (∀ line before,
      (∃ status after, (runOne settings line).on before = (.ok status, after) ∧
        after.lastStatus = status) ∨
      ∃ fault after, (runOne settings line).on before = (.error fault, after) ∧
        Stops settings line fault) ∧
    (¬settings.HoldsNull → ¬settings.Misnames →
      ∀ (lines : List String) (before : Machine),
        (∀ line ∈ lines, World.hasNull line = false) →
        ((lines.mapM (runOne settings)).on before).1 ≠ .error .targetTooDeep →
        ∃ statuses after, (lines.mapM (runOne settings)).on before = (.ok statuses, after) ∧
          statuses.length = lines.length ∧
          Remembered settings before.lastStatus (lines.zip statuses) after.lastStatus ∧
          ∀ line status, (line, status) ∈ lines.zip statuses → Told settings line status) :=
  ⟨runOne_returns_or_stops settings,
    fun proper named _ _ free shallow => mapM_runOne_returns proper named free shallow⟩

theorem lines_return_rejected :
    ¬({} : Settings).HoldsNull ∧ ¬({} : Settings).Misnames ∧
    ∃ statuses after, (["echo hi >", " "].mapM (runOne {})).on machineWithNote =
        (.ok statuses, after) ∧ statuses.length = 2 ∧
      Remembered {} 0 (["echo hi >", " "].zip statuses) after.lastStatus ∧
      ∀ line status, (line, status) ∈ ["echo hi >", " "].zip statuses → Told {} line status := by
  have proper : ¬({} : Settings).HoldsNull := by
    rintro (home | ⟨entry, member, -⟩)
    · exact absurd home (by decide)
    · cases member
  have named : ¬({} : Settings).Misnames := by
    rintro ⟨entry, member, -⟩
    cases member
  have invalid : commandOfLine {} "echo hi >" = .error (.redirectionSyntax ">" "newline") := rfl
  have blank : tokenize " " ({} : Settings).config.quoteMode = .ok [] := rfl
  obtain ⟨ready, -, refused⟩ := runOne_rejected machineWithNote invalid
  obtain ⟨last, silent, -⟩ := runOne_blank (reported ready _ 2) blank
  have ran := mapM_runOne_cons [" "] refused
  rw [mapM_runOne_cons [] silent] at ran
  refine ⟨proper, named, (lines_return {}).2 proper named _ machineWithNote (by decide) ?_⟩
  intro deep
  rw [ran] at deep
  cases deep

end Execution

end CommandShell
