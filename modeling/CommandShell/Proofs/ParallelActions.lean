import CommandShell.Proofs.Actions
import CommandShell.Proofs.LikeWorlds

/-! Actions side by side, on two machines whose worlds are alike. They end alike, and what they put
on the streams is the same, aside from outputs that only have to count as the same. What has been on
the streams before makes no difference. -/

namespace CommandShell

/-- What lines ask of worlds. Two worlds that are alike give the same answers to that, and stay
alike. `busy` is the file that is open for records. -/
structure Indistinct (busy : Option Location) (alike : World → World → Prop) : Prop where
  resolve : ∀ {first second}, alike first second → ∀ name path,
    second.resolve name path = first.resolve name path
  load : ∀ {first second}, alike first second → ∀ (launch : Launch) programs,
    launch.load programs second busy = launch.load programs first busy
  workingDirectory : ∀ {first second}, alike first second →
    second.workingDirectory = first.workingDirectory
  changeDirectory : ∀ {first second}, alike first second → ∀ path,
    Answers alike (first.changeDirectory path) (second.changeDirectory path)
  appendAt : ∀ {first second}, alike first second → ∀ location data,
    alike (first.appendAt location data) (second.appendAt location data)
  writeTarget : ∀ {first second}, alike first second → ∀ redirection data,
    alike (first.writeTarget redirection data).1 (second.writeTarget redirection data).1 ∧
      (second.writeTarget redirection data).2 = (first.writeTarget redirection data).2

def Programs.Overlook (programs : Programs) (alike : World → World → Prop)
    (program : StartedProgram) : Prop :=
  ∀ first second captured, alike first second →
    programs.conduct program second.view captured = programs.conduct program first.view captured

theorem Programs.Overlook.eq (programs : Programs) (program : StartedProgram) :
    programs.Overlook (· = ·) program := by
  rintro world - captured rfl
  rfl

theorem Indistinct.start {busy : Option Location} {alike : World → World → Prop}
    (indistinct : Indistinct busy alike) {programs : Programs} {launch : Launch}
    {first second : World} (worlds : alike first second)
    (overlook : ∀ program, launch.load programs first busy = .ok program →
      programs.Overlook alike program) (captured : Bool) :
    launch.start programs second busy captured = launch.start programs first busy captured := by
  rw [Launch.start, Launch.start, indistinct.load worlds]
  cases loaded : launch.load programs first busy with
  | error fault => rfl
  | ok program => exact congrArg Except.ok (overlook program loaded _ _ captured worlds)

theorem Indistinct.eq (busy : Option Location) : Indistinct busy (· = ·) where
  resolve := by
    rintro world - rfl name path
    rfl
  load := by
    rintro world - rfl launch programs
    rfl
  workingDirectory := by
    rintro world - rfl
    rfl
  changeDirectory := by
    rintro world - rfl path
    exact .of_eq _
  appendAt := by
    rintro world - rfl location data
    rfl
  writeTarget := by
    rintro world - rfl redirection data
    exact ⟨rfl, rfl⟩

theorem World.Alike.indistinct {same : Location → File → File → Prop} {busy : Option Location}
    (lasting : Lasting same) (confined : Launch.Confined busy same) :
    Indistinct busy (World.Alike same) where
  resolve alike := alike.corresponds.resolve
  load alike launch programs := launch.load_corresponds programs alike.corresponds confined
  workingDirectory alike := alike.workingDirectory
  changeDirectory alike := alike.changeDirectory
  appendAt alike := alike.appendAt lasting
  writeTarget alike redirection data :=
    have ended := alike.writeTarget lasting redirection data
    ⟨ended.alike, ended.result⟩

/-- What bytes of output count as the same has to hold of the same bytes, and of bytes in a row. -/
structure Additive (same : Bytes → Bytes → Prop) : Prop where
  refl : ∀ data, same data data
  append : ∀ {first second later more}, same first second → same later more →
    same (first ++ later) (second ++ more)

theorem Additive.eq : Additive (· = ·) where
  refl _ := rfl
  append := by
    rintro first - later - rfl rfl
    rfl

structure Machine.Alike (busy : Option Location) (alike : World → World → Prop)
    (first second : Machine) : Prop where
  world : alike first.world second.world
  logger : second.logger = first.logger
  opened : first.logger.openFile? = busy
  running : second.running = first.running
  lastStatus : second.lastStatus = first.lastStatus

/-- What a machine has put on its streams on the way to another one, the newest errors first. -/
structure Adds (before after : Machine) (output : Bytes) (chunks : List Chunk) : Prop where
  output : after.console.output = before.console.output ++ output
  errors : after.console.errorChunks = chunks ++ before.console.errorChunks
  logger : after.logger = before.logger

theorem Adds.refl (machine : Machine) : Adds machine machine [] [] :=
  ⟨(List.append_nil _).symm, rfl, rfl⟩

theorem Adds.trans {first second third : Machine} {output later : Bytes} {chunks more : List Chunk}
    (earlier : Adds first second output chunks) (next : Adds second third later more) :
    Adds first third (output ++ later) (more ++ chunks) where
  output := by rw [next.output, earlier.output, List.append_assoc]
  errors := by rw [next.errors, earlier.errors, List.append_assoc]
  logger := next.logger.trans earlier.logger

/-- Whether two machines have gone on side by side. They are alike afterwards, and have put the
same on the error stream, and outputs that count as the same on the other one. -/
structure Beside (busy : Option Location) (alike : World → World → Prop)
    (same : Bytes → Bytes → Prop) (first second ended finished : Machine) : Prop where
  alike : Machine.Alike busy alike ended finished
  added : ∃ output other chunks, same output other ∧ Adds first ended output chunks ∧
    Adds second finished other chunks

structure Parallel (busy : Option Location) (alike : World → World → Prop)
    (same : Bytes → Bytes → Prop) {α : Type} (holds : α → α → Prop) (one another : Action α)
    (first second : Machine) : Prop where
  answers : Answers holds (one.on first).1 (another.on second).1
  beside : Beside busy alike same first second (one.on first).2 (another.on second).2

section Steps

variable {busy : Option Location} {alike : World → World → Prop} {same : Bytes → Bytes → Prop}
  {first second ended finished last final : Machine}

theorem Beside.refl (additive : Additive same) (machines : Machine.Alike busy alike first second) :
    Beside busy alike same first second first second :=
  ⟨machines, [], [], [], additive.refl [], .refl _, .refl _⟩

theorem Beside.trans (additive : Additive same)
    (earlier : Beside busy alike same first second ended finished)
    (later : Beside busy alike same ended finished last final) :
    Beside busy alike same first second last final := by
  obtain ⟨-, output, other, chunks, same, adds, also⟩ := earlier
  obtain ⟨machines, output', other', chunks', same', adds', also'⟩ := later
  exact ⟨machines, output ++ output', other ++ other', chunks' ++ chunks,
    additive.append same same', adds.trans adds', also.trans also'⟩

/-- A record is delivered to both machines in the same way. -/
theorem Beside.emit (indistinct : Indistinct busy alike) (additive : Additive same)
    (machines : Machine.Alike busy alike first second) (record : Log.Record) :
    Beside busy alike same first second (first.emit record) (second.emit record) := by
  have agrees : second.logger.deliver record = first.logger.deliver record := by
    rw [machines.logger]
  cases delivered : first.logger.deliver record with
  | dropped =>
    rw [Machine.emit_of_dropped delivered, Machine.emit_of_dropped (agrees.trans delivered)]
    exact .refl additive machines
  | toConsole data =>
    rw [Machine.emit_of_toConsole delivered, Machine.emit_of_toConsole (agrees.trans delivered)]
    exact ⟨{ machines with }, [], [], [.logged data], additive.refl [],
      ⟨(List.append_nil _).symm, rfl, rfl⟩, ⟨(List.append_nil _).symm, rfl, rfl⟩⟩
  | toFile location data =>
    rw [Machine.emit_of_toFile delivered, Machine.emit_of_toFile (agrees.trans delivered)]
    exact ⟨{ machines with world := indistinct.appendAt machines.world location data }, [], [], [],
      additive.refl [], ⟨(List.append_nil _).symm, rfl, rfl⟩, ⟨(List.append_nil _).symm, rfl, rfl⟩⟩

theorem Beside.emitAll (indistinct : Indistinct busy alike) (additive : Additive same)
    (machines : Machine.Alike busy alike first second) (records : List Log.Record) :
    Beside busy alike same first second (first.emitAll records) (second.emitAll records) := by
  induction records generalizing first second with
  | nil => exact .refl additive machines
  | cons record records ih =>
    have step := Beside.emit indistinct additive machines record
    exact step.trans additive (ih step.alike)

namespace Parallel

variable {α β : Type} {holds : α → α → Prop} {result : β → β → Prop}

theorem pure (additive : Additive same) (machines : Machine.Alike busy alike first second)
    {value other : α} (agrees : holds value other) :
    Parallel busy alike same holds (Pure.pure value) (Pure.pure other) first second :=
  ⟨.ok agrees, .refl additive machines⟩

theorem throw (additive : Additive same) (machines : Machine.Alike busy alike first second)
    (fault : Fault) :
    Parallel busy alike same holds (MonadExcept.throw fault) (MonadExcept.throw fault) first second :=
  ⟨.error fault, .refl additive machines⟩

theorem get (additive : Additive same) (machines : Machine.Alike busy alike first second) :
    Parallel busy alike same (Machine.Alike busy alike) MonadState.get MonadState.get first second :=
  ⟨.ok machines, .refl additive machines⟩

theorem inspect (additive : Additive same) (machines : Machine.Alike busy alike first second) :
    Parallel busy alike same alike (Action.inspect id) (Action.inspect id) first second :=
  ⟨.ok machines.world, .refl additive machines⟩

theorem setWorld (additive : Additive same) (machines : Machine.Alike busy alike first second)
    {world other : World} (worlds : alike world other) :
    Parallel busy alike same (· = ·) (Action.setWorld world) (Action.setWorld other) first second :=
  ⟨.ok rfl, { machines with world := worlds }, [], [], [], additive.refl [],
    ⟨(List.append_nil _).symm, rfl, rfl⟩, ⟨(List.append_nil _).symm, rfl, rfl⟩⟩

theorem ofExcept (additive : Additive same) (machines : Machine.Alike busy alike first second)
    {answer other : Except Fault α} (agrees : Answers holds answer other) :
    Parallel busy alike same holds (Action.ofExcept answer) (Action.ofExcept other) first second := by
  refine ⟨?_, ?_⟩
  · rw [Action.on_ofExcept, Action.on_ofExcept]
    exact agrees
  · rw [Action.on_ofExcept, Action.on_ofExcept]
    exact .refl additive machines

theorem bind (additive : Additive same) {one another : Action α} {next go : α → Action β}
    (earlier : Parallel busy alike same holds one another first second)
    (later : ∀ value other ended finished, one.on first = (.ok value, ended) →
      another.on second = (.ok other, finished) → holds value other →
      Machine.Alike busy alike ended finished →
      Parallel busy alike same result (next value) (go other) ended finished) :
    Parallel busy alike same result (one >>= next) (another >>= go) first second := by
  obtain ⟨answers, beside⟩ := earlier
  rcases ran : one.on first with ⟨answer, ended⟩
  rcases also : another.on second with ⟨reply, finished⟩
  rw [ran, also] at answers beside
  cases answers with
  | error fault =>
    have stopped : (one >>= next).on first = (.error fault, ended) := by
      rw [Action.on_bind, ran]
    have halted : (another >>= go).on second = (.error fault, finished) := by
      rw [Action.on_bind, also]
    refine ⟨?_, ?_⟩
    · rw [stopped, halted]
      exact .error fault
    · rw [stopped, halted]
      exact beside
  | ok agrees =>
    obtain ⟨answers, rest⟩ := later _ _ _ _ ran also agrees beside.alike
    refine ⟨?_, ?_⟩
    · rw [Action.on_bind, Action.on_bind, ran, also]
      exact answers
    · rw [Action.on_bind, Action.on_bind, ran, also]
      exact beside.trans additive rest

/-- What follows an action with the same answers goes on with one and the same answer. -/
theorem next (additive : Additive same) {one another : Action α} {next go : α → Action β}
    (earlier : Parallel busy alike same (· = ·) one another first second)
    (later : ∀ value ended finished, Machine.Alike busy alike ended finished →
      Parallel busy alike same result (next value) (go value) ended finished) :
    Parallel busy alike same result (one >>= next) (another >>= go) first second := by
  apply earlier.bind additive
  rintro value _ ended finished - - rfl machines
  exact later value ended finished machines

theorem tryCatch (additive : Additive same) {one another : Action α}
    {handler recover : Fault → Action α}
    (earlier : Parallel busy alike same holds one another first second)
    (later : ∀ fault ended finished, Machine.Alike busy alike ended finished →
      Parallel busy alike same holds (handler fault) (recover fault) ended finished) :
    Parallel busy alike same holds (MonadExcept.tryCatch one handler)
      (MonadExcept.tryCatch another recover) first second := by
  obtain ⟨answers, beside⟩ := earlier
  rcases ran : one.on first with ⟨answer, ended⟩
  rcases also : another.on second with ⟨reply, finished⟩
  rw [ran, also] at answers beside
  cases answers with
  | error fault =>
    obtain ⟨answers, rest⟩ := later fault _ _ beside.alike
    refine ⟨?_, ?_⟩
    · rw [Action.on_tryCatch, Action.on_tryCatch, ran, also]
      exact answers
    · rw [Action.on_tryCatch, Action.on_tryCatch, ran, also]
      exact beside.trans additive rest
  | ok agrees =>
    refine ⟨?_, ?_⟩
    · rw [Action.on_tryCatch, Action.on_tryCatch, ran, also]
      exact .ok agrees
    · rw [Action.on_tryCatch, Action.on_tryCatch, ran, also]
      exact beside

theorem log (indistinct : Indistinct busy alike) (additive : Additive same)
    (machines : Machine.Alike busy alike first second) (record : Log.Record) :
    Parallel busy alike same (· = ·) (Action.log record) (Action.log record) first second :=
  ⟨.ok rfl, .emit indistinct additive machines record⟩

theorem write (machines : Machine.Alike busy alike first second) {data other : Bytes}
    (agrees : same data other) :
    Parallel busy alike same (· = ·) (Action.write data) (Action.write other) first second :=
  ⟨.ok rfl, { machines with }, data, other, [], agrees, ⟨Console.output_write _ _, rfl, rfl⟩,
    ⟨Console.output_write _ _, rfl, rfl⟩⟩

theorem inherit (machines : Machine.Alike busy alike first second) {data other : Bytes}
    (agrees : same data other) (errors : Bytes) :
    Parallel busy alike same (· = ·) (Action.inherit data errors) (Action.inherit other errors)
      first second :=
  ⟨.ok rfl, { machines with }, data, other, [.inherited errors], agrees,
    ⟨Console.output_inherit _ _ _, rfl, rfl⟩, ⟨Console.output_inherit _ _ _, rfl, rfl⟩⟩

theorem writeError (additive : Additive same) (machines : Machine.Alike busy alike first second)
    (data : Bytes) :
    Parallel busy alike same (· = ·) (Action.writeError data) (Action.writeError data) first second :=
  ⟨.ok rfl, { machines with }, [], [], [.written data], additive.refl [],
    ⟨(List.append_nil _).symm, rfl, rfl⟩, ⟨(List.append_nil _).symm, rfl, rfl⟩⟩

theorem rememberStatus (additive : Additive same)
    (machines : Machine.Alike busy alike first second) (status : Int) :
    Parallel busy alike same (· = ·) (Execution.rememberStatus status)
      (Execution.rememberStatus status) first second :=
  ⟨.ok rfl, { machines with lastStatus := rfl }, [], [], [], additive.refl [],
    ⟨(List.append_nil _).symm, rfl, rfl⟩, ⟨(List.append_nil _).symm, rfl, rfl⟩⟩

end Parallel

end Steps

end CommandShell
