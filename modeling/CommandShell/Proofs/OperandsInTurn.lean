import CommandShell.Proofs.BuiltinRefusals
import CommandShell.Proofs.TabPresses

/-! Operands in turn. `cat` and `type` deal with one operand after another, so a report about
several of them is put together from reports about each one alone, and an operand that is refused
takes nothing away from the others. A record that is logged in between shows only where `cat` is
given the log file itself. -/

namespace CommandShell

namespace Report

def Completes (report : Report) : Prop := report.result = .ok 0 ∨ report.result = .ok 1

/-- Whether a report has just what two others have, one after the other. All of them come to their
end, and the whole one does so with zero if both others do, and only then. -/
structure Joins (former latter whole : Report) : Prop where
  output : whole.output = former.output ++ latter.output
  errors : whole.errors = former.errors ++ latter.errors
  completes : former.Completes ∧ latter.Completes ∧ whole.Completes
  fine : whole.result = .ok 0 ↔ former.result = .ok 0 ∧ latter.result = .ok 0

structure Collects {α : Type} (operands : List α) (share : α → Report) (whole : Report) : Prop where
  output : whole.output = operands.flatMap fun operand => (share operand).output
  errors : whole.errors = operands.flatMap fun operand => (share operand).errors
  completes : whole.Completes
  fine : whole.result = .ok 0 ↔ ∀ operand ∈ operands, (share operand).result = .ok 0

section Shares

variable {α : Type} {operands first later : List α} {share : α → Report}
  {former latter whole : Report}

theorem andThen_joins (earlier : former.Completes) (rest : latter.Completes) :
    Joins former latter (former.andThen latter) where
  output := by rcases earlier with one | one <;> simp [andThen, one]
  errors := by rcases earlier with one | one <;> simp [andThen, one]
  completes := by
    refine ⟨earlier, rest, ?_⟩
    rcases earlier with one | one <;> rcases rest with other | other <;>
      simp [Completes, andThen, one, other, Except.map]
  fine := by
    rcases earlier with one | one <;> rcases rest with other | other <;>
      simp [andThen, one, other, Except.map]

theorem Collects.nil (share : α → Report) : Collects [] share {} :=
  ⟨rfl, rfl, .inl rfl, by simp⟩

theorem Collects.cons {operand : α} (joins : Joins (share operand) latter whole)
    (rest : Collects operands share latter) : Collects (operand :: operands) share whole where
  output := by rw [joins.output, rest.output, List.flatMap_cons]
  errors := by rw [joins.errors, rest.errors, List.flatMap_cons]
  completes := joins.completes.2.2
  fine := by rw [joins.fine, rest.fine, List.forall_mem_cons]

theorem Collects.joins (collected : Collects (first ++ later) share whole)
    (earlier : Collects first share former) (rest : Collects later share latter) :
    Joins former latter whole where
  output := by rw [collected.output, earlier.output, rest.output, List.flatMap_append]
  errors := by rw [collected.errors, earlier.errors, rest.errors, List.flatMap_append]
  completes := ⟨earlier.completes, rest.completes, collected.completes⟩
  fine := by rw [collected.fine, earlier.fine, rest.fine, List.forall_mem_append]

theorem forEach_collects (each : ∀ operand ∈ operands, (share operand).Completes) :
    Collects operands share (forEach operands share) := by
  induction operands with
  | nil => exact .nil share
  | cons operand operands ih =>
    obtain ⟨completes, others⟩ := List.forall_mem_cons.mp each
    have rest := ih others
    exact .cons (andThen_joins completes rest.completes) rest

end Shares

end Report

namespace World

variable {world : World} {path : String}

def read? (world : World) (path : String) : Option Bytes := (world.readFile path).toOption

/-- Reading succeeds or is refused by the system. There is nothing else, unless the character zero
is in the path. -/
theorem readFile_cases (world : World) (proper : hasNull path = false) :
    (∃ data, world.readFile path = .ok data) ∨
      ∃ error, world.readFile path = .error (.system error) := by
  cases read : world.readFile path with
  | ok data => exact .inl ⟨data, rfl⟩
  | error fault =>
    cases request_arises path _ fault read with
    | system error => exact .inr ⟨error, rfl⟩
    | nullCharacter held =>
      rw [proper] at held
      cases held
    | variableName misnamed => exact misnamed.elim
    | targetTooDeep deep => exact deep.elim

end World

namespace Machine

def LeadsToLog (machine : Machine) (path : String) : Prop :=
  ∃ location file, machine.logger.debugFile? = some location ∧
    machine.world.find path .entry = .ok (.file location file)

variable {machine : Machine} {records : List Log.Record}

/-- All but the log file reads the same after debug records. -/
theorem readFile_logged (distinct : machine.world.files.locations.Nodup)
    (debug : ∀ record ∈ records, record.IsDebug) {path : String}
    (elsewhere : ¬machine.LeadsToLog path) :
    Answers (· = ·) (machine.world.readFile path) ((machine.emitAll records).world.readFile path) := by
  have aside := (AlikeAside.refl distinct).emitAll debug
  refine (aside.2.world.readFile path).mono ?_
  intro first second read
  rcases readAlike_of_logged ⟨records, rfl⟩ aside.2.world read with same | ⟨leads, -⟩
  · exact same.symm
  · exact absurd leads elsewhere

end Machine

namespace Builtin

inductive TakesOperands : Builtin → Prop where
  | cat : TakesOperands .cat
  | type : TakesOperands .type

/-- Whether a report has the contents of the operands that can be read, and a message about each of
the other ones, in order. -/
structure Copies (world : World) (home : String) (operands : List String) (report : Report) :
    Prop where
  output : report.output = (operands.filterMap world.read?).flatten
  errors : report.errors = (refusals .cat world home operands).flatMap (complaint .cat)
  refused : (refusals .cat world home operands).map Prod.fst =
    operands.filter fun path => (world.read? path).isNone

variable {builtin : Builtin} {operands : List String} {machine after : Machine}
  {records : List Log.Record}

theorem completes_typeReport (world : World) (path name : String) :
    (typeReport world path name).Completes := by
  unfold typeReport
  split
  · exact .inl rfl
  · exact .inl rfl
  · exact .inr rfl

theorem completes_catReport (world : World) {path : String} (proper : World.hasNull path = false) :
    (catReport world path).Completes := by
  unfold catReport
  rcases world.readFile_cases proper with ⟨data, read⟩ | ⟨error, refused⟩
  · rw [read]
    exact .inl rfl
  · rw [refused]
    exact .inr rfl

theorem catReports_collect (world : World)
    (proper : ∀ operand ∈ operands, World.hasNull operand = false) :
    Report.Collects operands (catReport world) (.forEach operands (catReport world)) :=
  Report.forEach_collects fun path member => completes_catReport world (proper path member)

/-- A share is the report about an operand alone. -/
theorem perform_collects (takes : builtin.TakesOperands) (settings : Settings) (machine : Machine)
    (proper : ∀ operand ∈ operands, World.hasNull operand = false) :
    Report.Collects operands (fun operand => (builtin.perform settings [operand] machine).2)
      (builtin.perform settings operands machine).2 := by
  cases takes with
  | cat =>
    have alone (path : String) : (Builtin.cat.perform settings [path] machine).2 =
        catReport machine.world path := Report.andThen_nothing _
    simp only [alone]
    exact catReports_collect machine.world proper
  | type =>
    have alone (name : String) : (Builtin.type.perform settings [name] machine).2 =
        typeReport machine.world settings.path name := Report.andThen_nothing _
    simp only [alone]
    exact Report.forEach_collects fun name _ => completes_typeReport _ _ name

theorem output_catReport (world : World) (path : String) :
    (catReport world path).output = (world.read? path).toList.flatten := by
  unfold catReport World.read?
  split
  · next data read => simp [read, Except.toOption]
  · next error refused => simp [refused, Except.toOption, Report.ofError]
  · next fault other refused => simp [refused, Except.toOption, Report.ofFault]

/-- What is refused is what cannot be read. -/
theorem refusals_paths (world : World) (home : String)
    (proper : ∀ operand ∈ operands, World.hasNull operand = false) :
    (refusals .cat world home operands).map Prod.fst =
      operands.filter fun path => (world.read? path).isNone := by
  induction operands with
  | nil => rfl
  | cons path operands ih =>
    obtain ⟨first, others⟩ := List.forall_mem_cons.mp proper
    have rest := ih others
    simp only [refusals, List.flatMap_cons, List.map_append] at rest ⊢
    rw [rest]
    rcases world.readFile_cases first with ⟨data, read⟩ | ⟨error, refused⟩
    · simp [World.read?, read, Fault.systemError?, Except.toOption]
    · simp [World.read?, refused, Fault.systemError?, Except.toOption]

theorem perform_copies (settings : Settings) (machine : Machine)
    (proper : ∀ operand ∈ operands, World.hasNull operand = false) :
    Copies machine.world settings.home operands
      (Builtin.cat.perform settings operands machine).2 where
  output := by
    rw [perform, (catReports_collect machine.world proper).output, List.filterMap_eq_flatMap_toList,
      ← List.flatMap_id, List.flatMap_assoc]
    simp only [output_catReport, List.flatMap_id]
  errors := by
    have told := perform_tells .cat settings operands machine
    rcases (catReports_collect machine.world proper).completes with ended | ended
    · exact (told 0 ended).1
    · exact (told 1 ended).1
  refused := refusals_paths machine.world settings.home proper

/-- Names stand for the same after others have been looked up. -/
theorem perform_again (takes : builtin.TakesOperands) (settings : Settings) (machine : Machine)
    (former latter : List String) :
    (builtin.perform settings latter (builtin.perform settings former machine).1).2 =
      (builtin.perform settings latter machine).2 := by
  cases takes with
  | cat => rfl
  | type =>
    have logged : machine.Logged (Builtin.type.perform settings former machine).1 := ⟨_, rfl⟩
    have same (name : String) :
        typeReport (Builtin.type.perform settings former machine).1.world settings.path name =
          typeReport machine.world settings.path name := by
      simp only [typeReport, logged.resolve]
    exact congrArg (Report.forEach latter) (funext same)

/-- What a builtin reports depends on debug records only if it reads them. -/
theorem perform_logged (builtin : Builtin) (settings : Settings)
    (distinct : machine.world.files.locations.Nodup)
    (debug : ∀ record ∈ records, record.IsDebug)
    (elsewhere : builtin = .cat → ∀ path ∈ operands, ¬machine.LeadsToLog path) :
    (builtin.perform settings operands (machine.emitAll records)).2 =
      (builtin.perform settings operands machine).2 := by
  have aside := (Machine.AlikeAside.refl distinct).emitAll debug
  have indistinct := World.Alike.indistinct (Log.Logger.Aside.lasting machine.logger)
    (Log.Logger.Aside.confined machine.logger)
  have ends := perform_ends indistinct .eq aside.2 builtin settings operands fun reads path member =>
    Machine.readFile_logged distinct debug (elsewhere reads path member)
  exact ends.report.eq

theorem run_logged (builtin : Builtin) (settings : Settings)
    (distinct : machine.world.files.locations.Nodup)
    (debug : ∀ record ∈ records, record.IsDebug) (logged : after = machine.emitAll records)
    (elsewhere : builtin = .cat → ∀ path ∈ operands, ¬machine.LeadsToLog path) :
    (builtin.run settings operands after).2 = (builtin.perform settings operands machine).2 := by
  have also : ∀ record ∈ records ++ [builtin.record operands], record.IsDebug :=
    List.forall_mem_append.mpr ⟨debug, List.forall_mem_singleton.mpr ⟨_, _, rfl⟩⟩
  rw [run, ← perform_logged builtin settings distinct also elsewhere, logged, Machine.emitAll,
    Machine.emitAll, List.foldl_concat]

theorem run_debug (takes : builtin.TakesOperands) (settings : Settings) (operands : List String)
    (machine : Machine) :
    ∃ records, (∀ record ∈ records, record.IsDebug) ∧
      (builtin.run settings operands machine).1 = machine.emitAll records := by
  cases takes with
  | cat =>
    refine ⟨[Builtin.cat.record operands], ?_, rfl⟩
    exact List.forall_mem_singleton.mpr ⟨_, _, rfl⟩
  | type =>
    refine ⟨Builtin.type.record operands :: _, ?_, rfl⟩
    refine List.forall_mem_cons.mpr ⟨⟨_, _, rfl⟩, ?_⟩
    intro record member
    obtain ⟨name, -, rfl⟩ := List.mem_map.mp member
    exact ⟨_, _, rfl⟩

/-- Operands are dealt with one by one. What is told about several of them is what is told about the
first of them and then about the others, whether these come from the same state or from the one that
the first have left, and the status is zero if it is so both times, and one otherwise. Of `cat` this
is the contents of the operands that can be read, and one message for each of the other ones. The
record of a run, which names its operands, makes no difference unless `cat` is given the file that it
goes to. -/
theorem operands_in_turn {builtin : Builtin} (takes : builtin.TakesOperands) (settings : Settings)
    (machine : Machine) (former latter : List String)
    (proper : ∀ operand ∈ former ++ latter, World.hasNull operand = false) :
    let told (operands : List String) := (builtin.perform settings operands machine).2
    Report.Joins (told former) (told latter) (told (former ++ latter)) ∧
    (builtin.perform settings latter (builtin.perform settings former machine).1).2 = told latter ∧
    (builtin = .cat →
      Copies machine.world settings.home (former ++ latter) (told (former ++ latter))) ∧
    (machine.world.files.locations.Nodup →
      (builtin = .cat → ∀ path ∈ former ++ latter, ¬machine.LeadsToLog path) →
      let (after, report) := builtin.run settings former machine
      Report.Joins report (builtin.run settings latter after).2
        (builtin.run settings (former ++ latter) machine).2) := by
  intro told
  obtain ⟨first, later⟩ := List.forall_mem_append.mp proper
  have joins := (perform_collects takes settings machine proper).joins
    (perform_collects takes settings machine first) (perform_collects takes settings machine later)
  refine ⟨joins, perform_again takes settings machine former latter, ?_, ?_⟩
  · rintro rfl
    exact perform_copies settings machine proper
  · intro distinct elsewhere
    have front : builtin = .cat → ∀ path ∈ former, ¬machine.LeadsToLog path :=
      fun reads path member => elsewhere reads path (List.mem_append_left latter member)
    have back : builtin = .cat → ∀ path ∈ latter, ¬machine.LeadsToLog path :=
      fun reads path member => elsewhere reads path (List.mem_append_right former member)
    have silent : ∀ record ∈ ([] : List Log.Record), record.IsDebug := List.forall_mem_nil _
    obtain ⟨records, debug, left⟩ := run_debug takes settings former machine
    have one : (builtin.run settings former machine).2 = told former :=
      run_logged builtin settings distinct silent rfl front
    have other : (builtin.run settings latter (builtin.run settings former machine).1).2 =
        told latter := run_logged builtin settings distinct debug left back
    have both : (builtin.run settings (former ++ latter) machine).2 = told (former ++ latter) :=
      run_logged builtin settings distinct silent rfl elsewhere
    dsimp only
    rw [one, other, both]
    exact joins

def machineWithLog : Machine where
  world := ⟨{ owned := [], entries := [((1, ["log"]), .file { content := {} }),
    ((1, ["note"]), .file { content := .ofBytes (Bytes.ofText "x\n") }),
    ((1, ["sub"]), .directory)] }, .root⟩
  logger := { level := 10, handler := some ⟨.file (some ["log"]), 10⟩, propagates := false }

/-- Two operands are refused, and the file that stands before and after them is copied both
times. -/
theorem operands_in_turn_refused :
    let operands := ["note", "gone"] ++ ["sub", "note"]
    let (after, report) := Builtin.cat.run {} ["note", "gone"] machineWithLog
    let whole := (Builtin.cat.run {} operands machineWithLog).2
    TakesOperands .cat ∧ (∀ operand ∈ operands, World.hasNull operand = false) ∧
      machineWithLog.world.files.locations.Nodup ∧
      (∀ path ∈ operands, ¬machineWithLog.LeadsToLog path) ∧
      Report.Joins report (Builtin.cat.run {} ["sub", "note"] after).2 whole ∧
      Copies machineWithLog.world "~" operands (Builtin.cat.perform {} operands machineWithLog).2 ∧
      whole.output = Bytes.ofText "x\nx\n" ∧
      whole.errors = Bytes.ofText
        "cat: gone: No such file or directory\ncat: sub: Is a directory\n" ∧
      whole.result = .ok 1 := by
  intro operands
  have proper : ∀ operand ∈ operands, World.hasNull operand = false := by decide
  have distinct : machineWithLog.world.files.locations.Nodup := by decide
  have apart : ∀ path ∈ operands, (machineWithLog.world.find path .entry).map Found.location? ≠
      .ok (some ["log"]) := by decide +kernel
  have elsewhere : ∀ path ∈ operands, ¬machineWithLog.LeadsToLog path := by
    rintro path member ⟨location, file, opened, found⟩
    cases opened
    exact apart path member (congrArg (Except.map Found.location?) found)
  obtain ⟨-, -, copies, joins⟩ :=
    operands_in_turn .cat {} machineWithLog ["note", "gone"] ["sub", "note"] proper
  exact ⟨.cat, proper, distinct, elsewhere, joins distinct fun _ => elsewhere, copies rfl,
    by decide +kernel, by decide +kernel, by decide +kernel⟩

end Builtin

end CommandShell
