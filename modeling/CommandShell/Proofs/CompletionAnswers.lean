import CommandShell.Proofs.Actions
import CommandShell.Proofs.LikeWorlds
import CommandShell.Proofs.SharedStarts
import CommandShell.Session

/-! What the calls of a line editor are answered from: the state of completion, and which names
there are on the search path. What files hold and the order of tables have no part in it. -/

namespace CommandShell

namespace World

variable {same : Location → File → File → Prop} {before after : World}

theorem Alike.programsIn (alike : before.Alike same after) (directory : String) :
    Answers (fun first second => second.Perm first) (before.programsIn directory)
      (after.programsIn directory) := by
  unfold World.programsIn
  simp only [alike.corresponds.isExecutableFile]
  exact (alike.listDirectory directory).map _ _ fun _ _ listed => listed.filter _

/-- The same directories are passed over in both worlds. -/
theorem Alike.programsAlong (alike : before.Alike same after) (directories : List String) :
    (after.programsAlong directories).1 = (before.programsAlong directories).1 ∧
      Answers (fun first second => second.Perm first) (before.programsAlong directories).2
        (after.programsAlong directories).2 := by
  induction directories with
  | nil => exact ⟨rfl, .ok (.refl _)⟩
  | cons directory later ih =>
    obtain ⟨records, rest⟩ := ih
    have found := alike.programsIn directory
    unfold World.programsAlong
    generalize before.programsIn directory = first at found ⊢
    generalize after.programsIn directory = second at found ⊢
    cases found with
    | ok listed =>
      exact ⟨records, rest.map _ _ fun _ _ others => listed.append others⟩
    | error fault =>
      cases fault with
      | system error => exact ⟨congrArg (skippedRecord directory error :: ·) records, rest⟩
      | _ => exact ⟨rfl, .error _⟩

theorem Alike.commandNames (alike : before.Alike same after) (path : String) :
    (after.commandNames path).1 = (before.commandNames path).1 ∧
      Answers (fun first second => second.Perm first) (before.commandNames path).2
        (after.commandNames path).2 := by
  obtain ⟨records, names⟩ := alike.programsAlong (searchDirectories path)
  rw [commandNames_eq, commandNames_eq]
  exact ⟨records, names.map _ _ fun _ _ found => found.append_left _⟩

end World

namespace Completer

/-- Which candidates there are decides, and neither their order nor repeats do. -/
theorem candidatesFor_of_mem_iff {candidates others : List String}
    (same : ∀ word, word ∈ others ↔ word ∈ candidates) (start : String) :
    candidatesFor start others = candidatesFor start candidates := by
  refine candidatesFor_eq (candidatesFor_increasing start candidates) ?_
  intro word
  rw [mem_candidatesFor, same]

theorem propose_of_mem_iff {candidates others : List String}
    (same : ∀ word, word ∈ others ↔ word ∈ candidates) (state : CompletionState)
    (request : String) : propose state request others = propose state request candidates := by
  simp only [propose, candidatesFor_of_mem_iff same]

end Completer

namespace Session

variable {session : Session} {text line : String} {call position : Int}

structure Asks (call : Int) (line : String) (position : Int) : Prop where
  first : call = 0
  command : Completer.isArgument line position = false

theorem propose_argument (text : String) (argument : Completer.isArgument line position = true) :
    session.propose text line position = (.ok none, session) := by
  rw [propose, if_pos argument]

theorem tab_passed (text : String) (passed : ¬Asks call line position) :
    session.tab text call line position = (.ok none, session) := by
  by_cases first : call = 0
  · have argument : Completer.isArgument line position = true := by
      by_contra command
      exact passed ⟨first, Bool.eq_false_of_not_eq_true command⟩
    rw [tab, if_neg (not_not.mpr first), propose_argument text argument]
    rfl
  · rw [tab, if_pos first]

def answered (session : Session) (text line : String) (names : List String) : Session :=
  let proposed := Completer.propose session.completion text names
  let shown := Completer.display session.settings.config.prompt line proposed.1
  let logged := session.machine.emitAll (Completer.records text proposed.1)
  { session with
    machine := { logged with console := logged.console.write (Bytes.ofText shown) }
    completion := proposed.2 }

section Proposing

variable {fault : Fault} {names : List String}

theorem propose_failed (command : Completer.isArgument line position = false)
    (failed : (session.machine.world.commandNames session.settings.path).2 = .error fault) :
    session.propose text line position = (.error fault,
      session.told (session.machine.world.commandNames session.settings.path).1) := by
  rw [propose, if_neg (by simp [command])]
  simp only [complete, candidatesOr, Settings.searchPath_some, commandNames_eq, failed]

theorem propose_answered (command : Completer.isArgument line position = false)
    (offered : (session.machine.world.commandNames session.settings.path).2 = .ok names) :
    session.propose text line position =
      (.ok (some (Completer.propose session.completion text names).1),
        (session.told (session.machine.world.commandNames session.settings.path).1).answered text line
          names) := by
  rw [propose, if_neg (by simp [command])]
  simp only [complete, candidatesOr, Settings.searchPath_some, commandNames_eq, offered]
  rfl

theorem tab_failed (asks : Asks call line position)
    (failed : (session.machine.world.commandNames session.settings.path).2 = .error fault) :
    session.tab text call line position = (.error fault,
      session.told (session.machine.world.commandNames session.settings.path).1) := by
  rw [tab, if_neg (not_not.mpr asks.first), propose_failed asks.command failed]
  rfl

theorem tab_answered (asks : Asks call line position)
    (offered : (session.machine.world.commandNames session.settings.path).2 = .ok names) :
    session.tab text call line position =
      (.ok (Completer.replacement? (Completer.propose session.completion text names).1),
        (session.told (session.machine.world.commandNames session.settings.path).1).answered text line
          names) := by
  rw [tab, if_neg (not_not.mpr asks.first), propose_answered asks.command offered]
  rfl

end Proposing

/-- Whether two sessions face a call in the same way, as far as it can see. -/
structure Faces (one other : Session) : Prop where
  settings : other.settings = one.settings
  completion : other.completion = one.completion
  world : one.machine.world.Alike (fun _ _ _ => True) other.machine.world

theorem settings_told (session : Session) (records : List Log.Record) :
    (session.told records).settings = session.settings := by
  dsimp only [told]

theorem completion_told (session : Session) (records : List Log.Record) :
    (session.told records).completion = session.completion := by
  dsimp only [told]

theorem settings_answered (session : Session) (text line : String) (names : List String) :
    (session.answered text line names).settings = session.settings := by
  dsimp only [answered]

@[simp]
theorem output_told (session : Session) (records : List Log.Record) :
    (session.told records).machine.console.output = session.machine.console.output := by
  have silent := (session.machine.emitAll_wrote records).output
  rwa [List.append_nil] at silent

theorem output_answered (session : Session) (records : List Log.Record) (text line : String)
    (names : List String) :
    ((session.told records).answered text line names).machine.console.output =
      session.machine.console.output ++
        Bytes.ofText (Completer.display session.settings.config.prompt line
          (Completer.propose session.completion text names).1) := by
  have silent := ((session.told records).machine.emitAll_wrote (Completer.records text
    (Completer.propose session.completion text names).1)).output
  rw [List.append_nil, output_told] at silent
  rw [← silent]
  exact Console.output_write _ _

theorem completion_answered (session : Session) (records : List Log.Record) (text line : String)
    (names : List String) : ((session.told records).answered text line names).completion =
      (Completer.propose session.completion text names).2 := rfl

/-- Sessions that a call cannot tell apart give it the same answer, show the same, and are left with
the same state of completion. -/
theorem Faces.tab {one other : Session} (faces : Faces one other) (text : String) (call : Int)
    (line : String) (position : Int) :
    (other.tab text call line position).1 = (one.tab text call line position).1 ∧
      (other.tab text call line position).2.completion =
        (one.tab text call line position).2.completion ∧
      ∃ shown,
        (one.tab text call line position).2.machine.console.output =
          one.machine.console.output ++ shown ∧
        (other.tab text call line position).2.machine.console.output =
          other.machine.console.output ++ shown := by
  by_cases asks : Asks call line position
  · obtain ⟨-, named⟩ := faces.world.commandNames one.settings.path
    cases offered : (one.machine.world.commandNames one.settings.path).2 with
    | error fault =>
      rw [offered] at named
      have failed := named.of_error
      rw [← faces.settings] at failed
      rw [tab_failed asks offered, tab_failed asks failed]
      refine ⟨rfl, ?_, [], by simp, by simp⟩
      rw [completion_told, completion_told, faces.completion]
    | ok names =>
      rw [offered] at named
      obtain ⟨others, found, listed⟩ := named.of_ok
      rw [← faces.settings] at found
      have proposed := Completer.propose_of_mem_iff (fun _ => listed.mem_iff) one.completion text
      rw [← faces.completion] at proposed
      rw [tab_answered asks offered, tab_answered asks found, proposed]
      refine ⟨by rw [faces.completion], ?_, _, output_answered one _ text line names, ?_⟩
      · rw [completion_answered, completion_answered, proposed, faces.completion]
      · rw [output_answered, proposed, faces.completion, faces.settings]
  · rw [tab_passed text asks, tab_passed text asks]
    exact ⟨rfl, faces.completion, [], (List.append_nil _).symm, (List.append_nil _).symm⟩

end Session

end CommandShell
