import CommandShell.Session

/-! What actions come to when they are carried out. Each kind of step has one equation, so
an action is followed step by step without a look at how steps are put together. -/

namespace CommandShell.Action

/-- The answer of an action, and the machine that it leaves behind. -/
def on {α : Type} (action : Action α) (machine : Machine) : Except Fault α × Machine :=
  action.run.run machine

variable {α β : Type} (machine : Machine)

@[simp]
theorem on_pure (value : α) : (pure value : Action α).on machine = (.ok value, machine) := rfl

@[simp]
theorem on_throw (fault : Fault) :
    (throw fault : Action α).on machine = (.error fault, machine) := rfl

@[simp]
theorem on_bind (action : Action α) (next : α → Action β) :
    (action >>= next).on machine = match action.on machine with
      | (.ok value, after) => (next value).on after
      | (.error fault, after) => (.error fault, after) := by
  simp only [on, ExceptT.run_bind, StateT.run_bind]
  rcases action.run.run machine with ⟨fault | value, after⟩ <;> rfl

@[simp]
theorem on_map (action : Action α) (f : α → β) :
    (f <$> action).on machine = match action.on machine with
      | (.ok value, after) => (.ok (f value), after)
      | (.error fault, after) => (.error fault, after) := by
  simp only [on, ExceptT.run_map, StateT.run_map]
  rcases action.run.run machine with ⟨fault | value, after⟩ <;> rfl

@[simp]
theorem on_tryCatch (action : Action α) (handler : Fault → Action α) :
    (tryCatch action handler).on machine = match action.on machine with
      | (.ok value, after) => (.ok value, after)
      | (.error fault, after) => (handler fault).on after := by
  simp only [on, ExceptT.run_tryCatch, StateT.run_bind]
  rcases action.run.run machine with ⟨fault | value, after⟩ <;> rfl

@[simp]
theorem on_get : (get : Action Machine).on machine = (.ok machine, machine) := rfl

@[simp]
theorem on_set (after : Machine) : (set after : Action Unit).on machine = (.ok (), after) := rfl

@[simp]
theorem on_modify (change : Machine → Machine) :
    (modify change : Action Unit).on machine = (.ok (), change machine) := rfl

@[simp]
theorem on_log (record : Log.Record) : (log record).on machine = (.ok (), machine.emit record) :=
  rfl

@[simp]
theorem on_logAll (records : List Log.Record) :
    (logAll records).on machine = (.ok (), machine.emitAll records) := rfl

@[simp]
theorem on_write (data : Bytes) : (write data).on machine =
    (.ok (), { machine with console := machine.console.write data }) := rfl

@[simp]
theorem on_writeError (data : Bytes) : (writeError data).on machine =
    (.ok (), { machine with console := machine.console.writeError data }) := rfl

@[simp]
theorem on_inherit (output errors : Bytes) : (inherit output errors).on machine =
    (.ok (), { machine with console := machine.console.inherit output errors }) := rfl

@[simp]
theorem on_inspect (question : World → α) :
    (inspect question).on machine = (.ok (question machine.world), machine) := rfl

@[simp]
theorem on_setWorld (world : World) :
    (setWorld world).on machine = (.ok (), { machine with world }) := rfl

@[simp]
theorem on_ofExcept (answer : Except Fault α) : (ofExcept answer).on machine = (answer, machine) := by
  cases answer <;> rfl

theorem mapError_ok {ε : Type} (value : α) (f : ε → Fault) :
    (Except.ok value : Except ε α).mapError f = .ok value := rfl

theorem mapError_error {ε : Type} (fault : ε) (f : ε → Fault) :
    (Except.error fault : Except ε α).mapError f = .error (f fault) := rfl

end CommandShell.Action

namespace CommandShell.Execution

/-- The search path of the session is always given, so that of the process is not asked for. -/
@[simp]
theorem on_resolveName (settings : Settings) (name : String) (machine : Machine) :
    (resolveName settings name).on machine =
      (.ok (machine.world.resolve name settings.path),
        machine.emit ((machine.world.resolve name settings.path).record name)) := rfl

def tellEnd (launch : Launch) (capture : Bool) (outcome : Outcome) : Action Outcome :=
  match launch.argv with
  | [] => throw .missingName
  | name :: _ => do
    Action.log (outcome.record name)
    return if capture then outcome else { status := outcome.status }

end CommandShell.Execution

namespace CommandShell.Session

theorem perform_eq {α : Type} (session : Session) (action : Action α) :
    session.perform action = ((action.on session.machine).1,
      { session with machine := (action.on session.machine).2 }) := rfl

def told (session : Session) (records : List Log.Record) : Session :=
  { session with machine := session.machine.emitAll records }

theorem commandNames_eq (session : Session) (path : String) :
    session.commandNames path = ((session.machine.world.commandNames path).2,
      session.told (session.machine.world.commandNames path).1) := by
  rw [commandNames, perform_eq]
  simp only [Action.on_bind, Action.on_inspect, Action.on_logAll, Action.on_ofExcept]
  rfl

end CommandShell.Session
