import CommandShell.Launch
import CommandShell.Proofs.Records

/-! Where bytes come out. A session that was given streams of its own is apart from the process: the
shell and its builtins write on the streams of the session, and programs and the log on those of the
process. Otherwise the two are the same, and whatever is written comes out at both. -/

namespace CommandShell

inductive Outlet where
  | session
  | process
  deriving DecidableEq, Repr

namespace Chunk

def outlet : Chunk → Outlet
  | written _ => .session
  | inherited _ | logged _ => .process

/-- What comes out of a piece at an outlet, log records aside. -/
def bytesAt (apart : Bool) (outlet : Outlet) (chunk : Chunk) : Bytes :=
  if apart = true ∧ outlet ≠ chunk.outlet then [] else chunk.writtenBytes

end Chunk

namespace Console

def chunks (console : Console) : Stream → List Chunk
  | .output => console.outputChunks
  | .error => console.errorChunks

def shownAt (console : Console) (apart : Bool) (outlet : Outlet) (stream : Stream) : Bytes :=
  (Transcript.mk ((console.chunks stream).map (Chunk.bytesAt apart outlet))).toBytes

theorem shownAt_of_chunks {before after : Console} {stream : Stream} (chunk : Chunk)
    (added : after.chunks stream = chunk :: before.chunks stream) (apart : Bool) (outlet : Outlet) :
    after.shownAt apart outlet stream =
      before.shownAt apart outlet stream ++ chunk.bytesAt apart outlet := by
  rw [shownAt, added]
  exact Transcript.toBytes_add ⟨(before.chunks stream).map _⟩ _

end Console

def bytesOn (output errors : Bytes) : Stream → Bytes
  | .output => output
  | .error => errors

def Quiet (before after : Machine) : Prop :=
  ∀ apart outlet stream, after.console.shownAt apart outlet stream =
    before.console.shownAt apart outlet stream

/-- Whether a step has written these data, all of them at one outlet. -/
def WroteAt (place : Outlet) (data : Stream → Bytes) (before after : Machine) : Prop :=
  ∀ apart outlet stream, after.console.shownAt apart outlet stream =
    before.console.shownAt apart outlet stream ++
      if apart = true ∧ outlet ≠ place then [] else data stream

section Steps

variable {first second third : Machine} {place : Outlet} {data : Stream → Bytes}

theorem Quiet.of_console (same : second.console = first.console) : Quiet first second := by
  intro apart outlet stream
  rw [same]

theorem Quiet.trans (earlier : Quiet first second) (later : Quiet second third) :
    Quiet first third := by
  intro apart outlet stream
  rw [later, earlier]

theorem Quiet.wroteAt (quiet : Quiet first second) (wrote : WroteAt place data second third) :
    WroteAt place data first third := by
  intro apart outlet stream
  rw [wrote, quiet]

theorem WroteAt.quiet (wrote : WroteAt place data first second) (quiet : Quiet second third) :
    WroteAt place data first third := by
  intro apart outlet stream
  rw [quiet, wrote]

theorem WroteAt.trans {output errors later more : Bytes}
    (earlier : WroteAt place (bytesOn output errors) first second)
    (next : WroteAt place (bytesOn later more) second third) :
    WroteAt place (bytesOn (output ++ later) (errors ++ more)) first third := by
  intro apart outlet stream
  rw [next, earlier, List.append_assoc]
  split
  · rfl
  · cases stream <;> rfl

/-- Nothing is written either where there is nothing to write. -/
theorem Quiet.wroteAt_nothing (quiet : Quiet first second) (place : Outlet) :
    WroteAt place (bytesOn [] []) first second := by
  intro apart outlet stream
  cases stream <;> rw [quiet, bytesOn, ite_self, List.append_nil]

theorem WroteAt.quiet_of_nothing (wrote : WroteAt place (bytesOn [] []) first second) :
    Quiet first second := by
  intro apart outlet stream
  have nothing : bytesOn [] [] stream = [] := by cases stream <;> rfl
  rw [wrote, nothing, ite_self, List.append_nil]

theorem Quiet.emit (machine : Machine) (record : Log.Record) : Quiet machine (machine.emit record) := by
  cases delivered : machine.logger.deliver record with
  | dropped =>
    rw [Machine.emit_of_dropped delivered]
    exact .of_console rfl
  | toFile location data =>
    rw [Machine.emit_of_toFile delivered]
    exact .of_console rfl
  | toConsole data =>
    rw [Machine.emit_of_toConsole delivered]
    intro apart outlet stream
    cases stream with
    | output => rfl
    | error =>
      rw [Console.shownAt_of_chunks (.logged data) rfl, Chunk.bytesAt, Chunk.writtenBytes,
        ite_self, List.append_nil]

theorem Quiet.emitAll (machine : Machine) (records : List Log.Record) :
    Quiet machine (machine.emitAll records) := by
  induction records generalizing machine with
  | nil => exact .of_console rfl
  | cons record records ih => exact (Quiet.emit machine record).trans (ih _)

theorem Machine.Logged.quiet {before after : Machine} (logged : before.Logged after) :
    Quiet before after := by
  obtain ⟨records, rfl⟩ := logged
  exact Quiet.emitAll before records

theorem WroteAt.writeError (machine : Machine) (data : Bytes) :
    WroteAt .session (bytesOn [] data) machine
      { machine with console := machine.console.writeError data } := by
  intro apart outlet stream
  cases stream with
  | output => simp only [bytesOn, ite_self, List.append_nil]; rfl
  | error => exact Console.shownAt_of_chunks (.written data) rfl apart outlet

/-- What the shell writes itself comes out on the streams of the session. -/
theorem WroteAt.write (machine : Machine) (output errors : Bytes) :
    WroteAt .session (bytesOn output errors) machine
      { machine with console := (machine.console.write output).writeError errors } := by
  intro apart outlet stream
  cases stream with
  | output => exact Console.shownAt_of_chunks (.written output) rfl apart outlet
  | error => exact Console.shownAt_of_chunks (.written errors) rfl apart outlet

/-- What a program writes comes out on the streams of the process. -/
theorem WroteAt.inherit (machine : Machine) (output errors : Bytes) :
    WroteAt .process (bytesOn output errors) machine
      { machine with console := machine.console.inherit output errors } := by
  intro apart outlet stream
  cases stream with
  | output => exact Console.shownAt_of_chunks (.inherited output) rfl apart outlet
  | error => exact Console.shownAt_of_chunks (.inherited errors) rfl apart outlet

end Steps

structure SpokeOn (place : Outlet) (before after : Machine) (shown said : Bytes) : Prop
    extends Spoke before after shown said where
  outlet : WroteAt place (bytesOn shown said) before after

/-- What a step wrote, all of it at one outlet, where it changed no file, records aside. -/
structure WroteOn (place : Outlet) (before after : Machine) (shown said : Bytes) : Prop
    extends Wrote before after shown said where
  outlet : WroteAt place (bytesOn shown said) before after

section Places

variable {place : Outlet} {before middle after : Machine} {output errors : Bytes}

theorem Machine.Logged.wroteOn (logged : before.Logged after) (place : Outlet) :
    WroteOn place before after [] [] := ⟨logged.wrote, logged.quiet.wroteAt_nothing _⟩

theorem WroteOn.silent_left (earlier : WroteOn place before middle [] [])
    (later : WroteOn place middle after output errors) : WroteOn place before after output errors :=
  ⟨earlier.toWrote.silent_left later.toWrote, earlier.outlet.quiet_of_nothing.wroteAt later.outlet⟩

theorem WroteOn.silent_right (earlier : WroteOn place before middle output errors)
    (later : WroteOn place middle after [] []) : WroteOn place before after output errors :=
  ⟨earlier.toWrote.silent_right later.toWrote, earlier.outlet.quiet later.outlet.quiet_of_nothing⟩

theorem SpokeOn.remembering (spoke : SpokeOn place before after output errors) (status : Int) :
    SpokeOn place before { after with lastStatus := status } output errors :=
  ⟨spoke.toSpoke.remembering status, spoke.outlet.quiet (.of_console rfl)⟩

theorem WroteOn.remembering (wrote : WroteOn place before after output errors) (status : Int) :
    WroteOn place before { after with lastStatus := status } output errors :=
  ⟨wrote.toWrote.remembering status, wrote.outlet.quiet (.of_console rfl)⟩

end Places

end CommandShell
