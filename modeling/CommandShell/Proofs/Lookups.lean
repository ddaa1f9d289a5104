import CommandShell.Proofs.Records
import CommandShell.Proofs.Walks
import CommandShell.Resolution

/-! What a command name stands for. It is settled by the builtins and by which files there are,
so it stays the same while records are logged. -/

namespace CommandShell

namespace World

variable {world : World}

theorem resolve_eq_builtin {name path : String} {builtin : Builtin} :
    world.resolve name path = .builtin builtin ↔ Builtin.ofName? name = some builtin := by
  unfold resolve
  split
  · next known => simp [known]
  · next unknown =>
    constructor
    · intro resolved
      split at resolved
      · split at resolved <;> cases resolved
      · split at resolved <;> cases resolved
    · intro known
      rw [unknown] at known
      cases known

theorem resolve_of_notFound {name path missing : String}
    (resolved : world.resolve name path = .notFound missing) : missing = name := by
  unfold resolve at resolved
  split at resolved
  · cases resolved
  split at resolved
  · split at resolved <;> cases resolved
    rfl
  · split at resolved <;> cases resolved
    rfl

theorem Corresponds.isFile {same : Location → File → File → Prop} {before after : World}
    (corresponds : before.Corresponds same after) (path : String) :
    after.isFile path = before.isFile path := by
  have found := corresponds.find path .entry
  unfold World.isFile
  generalize before.find path .entry = first at found ⊢
  generalize after.find path .entry = second at found ⊢
  cases found with
  | error cause => rfl
  | ok holds => cases holds <;> rfl

/-- What files hold does not change what a name stands for. -/
theorem Corresponds.resolve {same : Location → File → File → Prop} {before after : World}
    (corresponds : before.Corresponds same after) (name path : String) :
    after.resolve name path = before.resolve name path := by
  have files : after.isFile = before.isFile := funext corresponds.isFile
  unfold World.resolve findProgram findAlong
  rw [files]

end World

namespace Machine

theorem resolve_emit (machine : Machine) (record : Log.Record) (name path : String) :
    (machine.emit record).world.resolve name path = machine.world.resolve name path := by
  unfold emit
  split
  · rfl
  · rfl
  · exact (machine.world.corresponds_appendAt _ _).resolve name path

theorem Logged.resolve {before after : Machine} (logged : Logged before after)
    (name path : String) : after.world.resolve name path = before.world.resolve name path := by
  obtain ⟨records, rfl⟩ := logged
  induction records generalizing before with
  | nil => rfl
  | cons record records ih => exact ih.trans (before.resolve_emit record name path)

end Machine

end CommandShell
