import CommandShell.Proofs.LineSurvival
import CommandShell.Proofs.ParallelLines
import CommandShell.Session

/-! The reading of lines. The loop does what its lines do one after another, up to the line that
ends the session or to the end of input. What it shows between them has no part in that. -/

namespace CommandShell

theorem Machine.Alike.shown {busy : Option Location} {alike : World → World → Prop}
    {machine looped : Machine} (machines : Machine.Alike busy alike machine looped) (data : Bytes) :
    Machine.Alike busy alike machine { looped with console := looped.console.write data } :=
  { machines with }

theorem Machine.Alike.eq_but_console {busy : Option Location} {machine looped : Machine}
    (machines : Machine.Alike busy (· = ·) machine looped) :
    looped = { machine with console := looped.console } := by
  rw [machines.world, ← machines.logger, ← machines.running, ← machines.lastStatus]

namespace Execution

/-- Lines that are run one after another, among events that do nothing to the machine. The bytes
are those that the loop shows for the events: the prompt each time, and what the line writes on the
output stream, or else the end of the line that was dropped. -/
inductive Folds (settings : Settings) (prompt : Bytes) :
    Machine → List InputEvent → Bytes → Machine → Prop where
  | nil (machine : Machine) : Folds settings prompt machine [] [] machine
  | line {before middle after : Machine} {text : String} {later : List InputEvent} {status : Int}
      {written output : Bytes} (returned : (runOne settings text).on before = (.ok status, middle))
      (wrote : middle.console.output = before.console.output ++ written)
      (rest : Folds settings prompt middle later output after) :
      Folds settings prompt before (.line text :: later) (prompt ++ written ++ output) after
  | interrupt {before after : Machine} {later : List InputEvent} {output : Bytes}
      (rest : Folds settings prompt before later output after) :
      Folds settings prompt before (.interrupt :: later) (prompt ++ Bytes.ofText "\n" ++ output) after
  | endOfInput {before after : Machine} {later : List InputEvent} {output : Bytes}
      (rest : Folds settings prompt before later output after) :
      Folds settings prompt before (.endOfInput :: later) (prompt ++ Bytes.ofText "\n" ++ output) after

/-- Whether the first of some events that ends the loop is the last one of them: an end of input,
or a line that ends the session. -/
structure LastRead (settings : Settings) (prompt : Bytes) (machine : Machine)
    (earlier : List InputEvent) (last : InputEvent) (folded : Machine) : Prop where
  lines : .endOfInput ∉ earlier
  running : ∀ part rest output middle, earlier = part ++ rest →
    Folds settings prompt machine part output middle → middle.running = true
  ends : last = .endOfInput ∨ (∃ text, last = .line text) ∧ folded.running = false

def Returning (settings : Settings) (prompt : Bytes) (machine : Machine)
    (events : List InputEvent) : Prop :=
  ∀ earlier text later output middle, events = earlier ++ .line text :: later →
    .endOfInput ∉ earlier → Folds settings prompt machine earlier output middle →
    middle.running = true → ∃ status after, (runOne settings text).on middle = (.ok status, after)

/-- What a loop does with events, and what is so in the lines that it has read. The loop begins with
a machine of its own, which has shown something else before. -/
structure Loops (busy : Option Location) (settings : Settings) (prompt : Bytes)
    (events : List InputEvent) (machine looped : Machine) (earlier : List InputEvent)
    (last : InputEvent) (output : Bytes) (folded after : Machine) : Prop where
  ended : (readAndRun settings (Action.write prompt) events).on looped =
    (.ok ⟨earlier.length + 1, events.drop (earlier.length + 1)⟩, after)
  reads : earlier ++ [last] <+: events ++ [.endOfInput]
  folds : Folds settings prompt machine (earlier ++ [last]) output folded
  stops : LastRead settings prompt machine earlier last folded
  alike : Machine.Alike busy (· = ·) folded after
  output : after.console.output = looped.console.output ++ output
  errors : ∃ chunks, folded.console.errorChunks = chunks ++ machine.console.errorChunks ∧
    after.console.errorChunks = chunks ++ looped.console.errorChunks

variable {busy : Option Location} {settings : Settings} {prompt output : Bytes}
  {machine looped middle folded after : Machine} {events earlier : List InputEvent}
  {last : InputEvent}

theorem Returning.interrupt (returning : Returning settings prompt machine (.interrupt :: events)) :
    Returning settings prompt machine events := by
  intro earlier text later output middle divided lines folds running
  refine returning (.interrupt :: earlier) text later _ middle ?_ ?_ (.interrupt folds) running
  · rw [divided, List.cons_append]
  · simpa using lines

theorem Returning.line {text : String} {status : Int} {written : Bytes}
    (returning : Returning settings prompt machine (.line text :: events))
    (returned : (runOne settings text).on machine = (.ok status, middle))
    (wrote : middle.console.output = machine.console.output ++ written) :
    Returning settings prompt middle events := by
  intro earlier text' later output last divided lines folds running
  refine returning (.line text :: earlier) text' later _ last ?_ ?_ (.line returned wrote folds)
    running
  · rw [divided, List.cons_append]
  · simpa using lines

theorem readAndRun_stopped (ask : Action Unit) (stopped : machine.running = false) :
    (readAndRun settings ask events).on machine = (.ok ⟨0, events⟩, machine) := by
  cases events <;>
    simp only [readAndRun, Action.on_bind, Action.on_get, stopped, Bool.not_false, if_true,
      Action.on_pure]

/-- A loop that is running shows the prompt and takes the next event. -/
theorem readAndRun_interrupt (running : looped.running = true)
    (ended : (readAndRun settings (Action.write prompt) events).on
        { looped with console := (looped.console.write prompt).write (Bytes.ofText "\n") } =
      (.ok ⟨earlier.length + 1, events.drop (earlier.length + 1)⟩, after)) :
    (readAndRun settings (Action.write prompt) (.interrupt :: events)).on looped =
      (.ok ⟨(InputEvent.interrupt :: earlier).length + 1,
        (InputEvent.interrupt :: events).drop ((InputEvent.interrupt :: earlier).length + 1)⟩,
        after) := by
  simp only [running] at ended
  simp only [readAndRun, Action.on_bind, Action.on_get, running, Bool.not_true, Bool.false_eq_true,
    if_false, Action.on_write, ended, Action.on_pure]
  rfl

theorem readAndRun_endOfInput (running : looped.running = true) :
    (readAndRun settings (Action.write prompt) (.endOfInput :: events)).on looped =
      (.ok ⟨1, events⟩,
        { looped with console := (looped.console.write prompt).write (Bytes.ofText "\n") }) := by
  simp only [readAndRun, Action.on_bind, Action.on_get, running, Bool.not_true, Bool.false_eq_true,
    if_false, Action.on_write, Action.on_pure]

theorem readAndRun_nil (running : looped.running = true) :
    (readAndRun settings (Action.write prompt) []).on looped =
      (.ok ⟨1, []⟩,
        { looped with console := (looped.console.write prompt).write (Bytes.ofText "\n") }) := by
  simp only [readAndRun, Action.on_bind, Action.on_get, running, Bool.not_true, Bool.false_eq_true,
    if_false, Action.on_write, Action.on_pure]

theorem readAndRun_line {text : String} {status : Int} {ended : LoopEnd}
    (running : looped.running = true)
    (returned : (runOne settings text).on
      { looped with console := looped.console.write prompt } = (.ok status, middle))
    (rest : (readAndRun settings (Action.write prompt) events).on middle = (.ok ended, after)) :
    (readAndRun settings (Action.write prompt) (.line text :: events)).on looped =
      (.ok ended.askedOnceMore, after) := by
  simp only [running] at returned
  simp only [readAndRun, Action.on_bind, Action.on_get, running, Bool.not_true, Bool.false_eq_true,
    if_false, Action.on_write, returned, rest, Action.on_pure]

theorem LastRead.interrupt (running : machine.running = true)
    (stops : LastRead settings prompt machine earlier last folded) :
    LastRead settings prompt machine (.interrupt :: earlier) last folded where
  lines := by simpa using stops.lines
  ends := stops.ends
  running := by
    intro part rest output middle divided folds
    cases folds with
    | nil => exact running
    | interrupt inner => exact stops.running _ rest _ _ (List.cons.inj divided).2 inner
    | line => cases (List.cons.inj divided).1
    | endOfInput => cases (List.cons.inj divided).1

theorem LastRead.line {text : String} {status : Int} (running : machine.running = true)
    (returned : (runOne settings text).on machine = (.ok status, middle))
    (stops : LastRead settings prompt middle earlier last folded) :
    LastRead settings prompt machine (.line text :: earlier) last folded where
  lines := by simpa using stops.lines
  ends := stops.ends
  running := by
    intro part rest output final divided folds
    cases folds with
    | nil => exact running
    | interrupt => cases (List.cons.inj divided).1
    | endOfInput => cases (List.cons.inj divided).1
    | line also wrote inner =>
      obtain ⟨same, inside⟩ := List.cons.inj divided
      cases same
      cases returned.symm.trans also
      exact stops.running _ rest _ _ inside inner

theorem LastRead.single (running : machine.running = true)
    (ends : last = .endOfInput ∨ (∃ text, last = .line text) ∧ folded.running = false) :
    LastRead settings prompt machine [] last folded where
  lines := List.not_mem_nil
  ends := ends
  running := by
    intro part rest output middle divided folds
    obtain ⟨rfl, -⟩ := List.append_eq_nil_iff.mp divided.symm
    cases folds
    exact running

theorem Loops.endOfInput (running : machine.running = true)
    (alike : Machine.Alike busy (· = ·) machine looped)
    (reads : [.endOfInput] <+: events ++ [.endOfInput])
    (ended : (readAndRun settings (Action.write prompt) events).on looped =
      (.ok ⟨1, events.drop 1⟩,
        { looped with console := (looped.console.write prompt).write (Bytes.ofText "\n") })) :
    Loops busy settings prompt events machine looped [] .endOfInput
      (prompt ++ Bytes.ofText "\n" ++ []) machine
      { looped with console := (looped.console.write prompt).write (Bytes.ofText "\n") } where
  ended := ended
  reads := reads
  folds := .endOfInput (.nil machine)
  stops := .single running (.inl rfl)
  alike := (alike.shown prompt).shown _
  output := by simp
  errors := ⟨[], rfl, rfl⟩

theorem Loops.interrupt (running : machine.running = true)
    (alike : Machine.Alike busy (· = ·) machine looped)
    (loops : Loops busy settings prompt events machine
      { looped with console := (looped.console.write prompt).write (Bytes.ofText "\n") } earlier last
      output folded after) :
    Loops busy settings prompt (.interrupt :: events) machine looped (.interrupt :: earlier) last
      (prompt ++ Bytes.ofText "\n" ++ output) folded after where
  ended := readAndRun_interrupt (alike.running.trans running) loops.ended
  reads := List.cons_prefix_cons.mpr ⟨rfl, loops.reads⟩
  folds := .interrupt loops.folds
  stops := loops.stops.interrupt running
  alike := loops.alike
  output := by simp [loops.output]
  errors := loops.errors

/-- Lines side by side with the same world do the same. -/
theorem runOne_beside {text : String} {status : Int}
    (alike : Machine.Alike busy (· = ·) machine looped)
    (returned : (runOne settings text).on machine = (.ok status, middle)) :
    ∃ finished written chunks, (runOne settings text).on looped = (.ok status, finished) ∧
      Machine.Alike busy (· = ·) middle finished ∧ Adds machine middle written chunks ∧
      Adds looped finished written chunks := by
  have reads : ∀ command, commandOfLine settings text = .ok command →
      command.ReadsAlike settings (· = ·) (· = ·) machine looped := by
    intro command read
    refine ⟨fun program _ => .eq _ program, ?_, fun _ _ _ _ _ same => same⟩
    rintro - path - ended finished - - same
    rw [same]
    exact .of_eq _
  obtain ⟨answers, ⟨alike, written, other, chunks, rfl, adds, also⟩⟩ :=
    runOne_parallel (.eq busy) .eq alike reads
  rcases ran : (runOne settings text).on looped with ⟨answer, finished⟩
  rw [returned, ran] at answers alike
  rw [returned] at adds
  rw [ran] at also
  cases answers with
  | ok same =>
    subst same
    exact ⟨finished, written, chunks, rfl, alike, adds, also⟩

/-- A line that ends the session is the last one that is read. -/
theorem Loops.exit {text : String} {status : Int} {written : Bytes} {chunks : List Chunk}
    (running : machine.running = true) (alike : Machine.Alike busy (· = ·) machine looped)
    (returned : (runOne settings text).on machine = (.ok status, folded))
    (ran : (runOne settings text).on { looped with console := looped.console.write prompt } =
      (.ok status, after))
    (still : Machine.Alike busy (· = ·) folded after) (adds : Adds machine folded written chunks)
    (also : Adds { looped with console := looped.console.write prompt } after written chunks)
    (stopped : folded.running = false) :
    Loops busy settings prompt (.line text :: events) machine looped [] (.line text)
      (prompt ++ written ++ []) folded after where
  ended := readAndRun_line (alike.running.trans running) ran
    (readAndRun_stopped _ (still.running.trans stopped))
  reads := by simp
  folds := .line returned adds.output (.nil folded)
  stops := .single running (.inr ⟨⟨text, rfl⟩, stopped⟩)
  alike := still
  output := by simp [also.output]
  errors := ⟨chunks, adds.errors, also.errors⟩

theorem Loops.line {text : String} {status : Int} {written : Bytes} {chunks : List Chunk}
    {finished : Machine} (running : machine.running = true)
    (alike : Machine.Alike busy (· = ·) machine looped)
    (returned : (runOne settings text).on machine = (.ok status, middle))
    (ran : (runOne settings text).on { looped with console := looped.console.write prompt } =
      (.ok status, finished))
    (adds : Adds machine middle written chunks)
    (also : Adds { looped with console := looped.console.write prompt } finished written chunks)
    (loops : Loops busy settings prompt events middle finished earlier last output folded after) :
    Loops busy settings prompt (.line text :: events) machine looped (.line text :: earlier) last
      (prompt ++ written ++ output) folded after where
  ended := readAndRun_line (alike.running.trans running) ran loops.ended
  reads := List.cons_prefix_cons.mpr ⟨rfl, loops.reads⟩
  folds := .line returned adds.output loops.folds
  stops := loops.stops.line running returned
  alike := loops.alike
  output := by simp [loops.output, also.output]
  errors := by
    obtain ⟨more, first, second⟩ := loops.errors
    refine ⟨more ++ chunks, ?_, ?_⟩
    · rw [first, adds.errors, List.append_assoc]
    · rw [second, also.errors, List.append_assoc]
      rfl

/-- The induction is over the events. What carries it is that the loop and the lines by themselves
go on with machines that differ in their consoles alone. -/
theorem exists_loops (running : machine.running = true)
    (alike : Machine.Alike busy (· = ·) machine looped)
    (returning : Returning settings prompt machine events) :
    ∃ earlier last output folded after,
      Loops busy settings prompt events machine looped earlier last output folded after := by
  induction events generalizing machine looped with
  | nil =>
    exact ⟨_, _, _, _, _, .endOfInput running alike (List.prefix_refl _)
      (readAndRun_nil (alike.running.trans running))⟩
  | cons event later ih =>
    cases event with
    | endOfInput =>
      exact ⟨_, _, _, _, _, .endOfInput running alike (by simp)
        (readAndRun_endOfInput (alike.running.trans running))⟩
    | interrupt =>
      obtain ⟨earlier, last, output, folded, after, loops⟩ :=
        ih running ((alike.shown prompt).shown _) returning.interrupt
      exact ⟨_, _, _, _, _, loops.interrupt running alike⟩
    | line text =>
      obtain ⟨status, middle, returned⟩ :=
        returning [] text later [] machine rfl List.not_mem_nil (.nil machine) running
      obtain ⟨finished, written, chunks, ran, still, adds, also⟩ :=
        runOne_beside (alike.shown prompt) returned
      cases goes : middle.running with
      | false => exact ⟨_, _, _, _, _, .exit running alike returned ran still adds also goes⟩
      | true =>
        obtain ⟨earlier, last, output, folded, after, loops⟩ :=
          ih goes still (returning.line returned adds.output)
        exact ⟨_, _, _, _, _, loops.line running alike returned ran adds also⟩

/-- Lines that hold no character zero, and no target that lies too deep, all return where nothing of
the session stands in their way. -/
theorem returning_of_proper (prompt : Bytes) (machine : Machine) (proper : ¬settings.HoldsNull)
    (named : ¬settings.Misnames)
    (plain : ∀ text, .line text ∈ events →
      World.hasNull text = false ∧ text.toList.count '/' < World.maxDirectories) :
    Returning settings prompt machine events := by
  intro earlier text later output middle divided lines folds running
  have member : .line text ∈ events := by
    rw [divided]
    exact List.mem_append_right _ List.mem_cons_self
  obtain ⟨free, shallow⟩ := plain text member
  exact runOne_returns middle proper named free shallow

/-- What the loop does with events. It reads them up to one that ends it, does what the lines among
them do by themselves, and shows the prompt for each of them. -/
structure RunsThrough (settings : Settings) (events : List InputEvent) (machine : Machine)
    (earlier : List InputEvent) (last : InputEvent) (ended : LoopEnd) (after : Machine) : Prop where
  reads : earlier ++ [last] <+: events ++ [.endOfInput]
  asked : ended.asked = (earlier ++ [last]).length
  unread : ended.unread = events.drop (earlier ++ [last]).length
  status : ended.status = 0
  folds : ∃ output folded,
    Folds settings (Bytes.ofText settings.config.prompt) machine (earlier ++ [last]) output folded ∧
    LastRead settings (Bytes.ofText settings.config.prompt) machine earlier last folded ∧
    after = { folded with console := after.console } ∧
    after.console.output = machine.console.output ++ output ∧
    after.console.errorChunks = folded.console.errorChunks

/-- The loop is the lines one after another, up to the first end of input or the first line that ends
the session. A session that has ended already reads nothing. -/
theorem readAndRun_runsThrough (settings : Settings) (events : List InputEvent) (machine : Machine) :
    (machine.running = true →
      Returning settings (Bytes.ofText settings.config.prompt) machine events →
      ∃ ended after,
        (readAndRun settings (Action.write (Bytes.ofText settings.config.prompt)) events).on machine =
          (.ok ended, after) ∧
        ∃ earlier last, RunsThrough settings events machine earlier last ended after) ∧
    (machine.running = false →
      (readAndRun settings (Action.write (Bytes.ofText settings.config.prompt)) events).on machine =
        (.ok ⟨0, events⟩, machine)) := by
  refine ⟨?_, readAndRun_stopped _⟩
  intro running returning
  have itself : Machine.Alike machine.logger.openFile? (· = ·) machine machine :=
    ⟨rfl, rfl, rfl, rfl, rfl⟩
  obtain ⟨earlier, last, output, folded, after, loops⟩ := exists_loops running itself returning
  have long : (earlier ++ [last]).length = earlier.length + 1 := List.length_append
  refine ⟨_, after, loops.ended, earlier, last, loops.reads, long.symm, long ▸ rfl, rfl, output, folded,
    loops.folds, loops.stops, ?_, loops.output, ?_⟩
  · exact loops.alike.eq_but_console
  · obtain ⟨chunks, first, second⟩ := loops.errors
    rw [first, second]

/-- What follows the end of the session is not read. -/
theorem readAndRun_runsThrough_exit :
    machineWithNote.running = true ∧
    Returning {} (Bytes.ofText ({} : Settings).config.prompt) machineWithNote
      [.interrupt, .line "exit > note", .line "pwd"] ∧
    ∃ ended after,
      (readAndRun {} (Action.write (Bytes.ofText ({} : Settings).config.prompt))
        [.interrupt, .line "exit > note", .line "pwd"]).on machineWithNote = (.ok ended, after) ∧
      ∃ earlier last, RunsThrough {} [.interrupt, .line "exit > note", .line "pwd"] machineWithNote
        earlier last ended after := by
  have proper : ¬({} : Settings).HoldsNull := by
    rintro (home | ⟨entry, member, -⟩)
    · exact absurd home (by decide)
    · cases member
  have named : ¬({} : Settings).Misnames := by
    rintro ⟨entry, member, -⟩
    cases member
  have returning : Returning {} (Bytes.ofText ({} : Settings).config.prompt) machineWithNote
      [.interrupt, .line "exit > note", .line "pwd"] := by
    apply returning_of_proper _ _ proper named
    intro text member
    simp only [List.mem_cons, reduceCtorEq, InputEvent.line.injEq, List.not_mem_nil, or_false,
      false_or] at member
    rcases member with rfl | rfl <;> decide
  exact ⟨rfl, returning, (readAndRun_runsThrough _ _ _).1 rfl returning⟩

end Execution

end CommandShell
