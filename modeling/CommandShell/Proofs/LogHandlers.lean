import CommandShell.Proofs.Records
import CommandShell.Proofs.Walks

/-! The handlers of a logger, one by one. A logger can hold any number of handlers, and each of them
takes a record for itself. Those that are there are all taken away before a new one is put in, so that
one is enough to tell what a logger does. -/

namespace CommandShell

namespace Log

structure Roster where
  level : Int
  handlers : List Handler
  propagates : Bool
  moment : Moment
  deriving DecidableEq, Repr

def Logger.roster (logger : Logger) : Roster :=
  ⟨logger.level, logger.handler.toList, logger.propagates, logger.moment⟩

def Sink.delivery (line : Bytes) : Sink → Logger.Delivery
  | .file (some location) => .toFile location line
  | .file none => .dropped
  | .console => .toConsole line
  | .nowhere => .dropped

def Record.line (record : Record) (moment : Moment) : Bytes :=
  Bytes.ofText (record.render moment ++ "\n")

namespace Roster

def threshold (roster : Roster) : Int := if roster.level = 0 then Level.warning else roster.level

def remove (roster : Roster) (handler : Handler) : Roster :=
  { roster with handlers := roster.handlers.erase handler }

/-- Take the handlers away that are there at the start, one after another. -/
def clear (roster : Roster) : Roster := roster.handlers.foldl remove roster

def add (roster : Roster) (handler : Handler) : Roster :=
  { roster with handlers := roster.handlers ++ [handler] }

def setUp (roster : Roster) (config : Config) (world : World) :
    Roster × World × Except Fault Unit :=
  let bare : Roster := { roster.clear with level := config.logLevel, propagates := false }
  match config.logPath? with
  | some path =>
    match openLog world path with
    | (opened, .ok location) => (bare.add ⟨.file (some location), config.logLevel⟩, opened, .ok ())
    | (opened, .error fault) => (bare, opened, .error fault)
  | none =>
    if config.logLevel < Level.warning then (bare.add ⟨.console, config.logLevel⟩, world, .ok ())
    else (bare.add ⟨.nowhere, config.logLevel⟩, world, .ok ())

/-- All that is done with a record of the shell: something for each handler that takes it. Without
any handler it may still come to a bare message. -/
def deliveries (roster : Roster) (record : Record) : List Logger.Delivery :=
  if record.level ≤ 0 ∨ record.level < roster.threshold then []
  else if roster.handlers = [] then [Logger.lastResort record]
  else (roster.handlers.filter (·.level ≤ record.level)).map
    (·.sink.delivery (record.line roster.moment))

theorem clear_eq (roster : Roster) : roster.clear = { roster with handlers := [] } := by
  obtain ⟨level, handlers, propagates, moment⟩ := roster
  unfold clear
  induction handlers with
  | nil => rfl
  | cons handler rest ih =>
    have removed : remove ⟨level, handler :: rest, propagates, moment⟩ handler =
        ⟨level, rest, propagates, moment⟩ := by
      simp only [remove, List.erase_cons_head]
    rw [List.foldl_cons, removed]
    exact ih

variable {roster : Roster} {logger : Logger} {record : Record}

/-- Which handlers a logger had makes no difference once it is set up. -/
theorem setUp_eq (same : roster.moment = logger.moment) (config : Config) (world : World) :
    roster.setUp config world =
      ((Log.setUp logger config world).1.roster, (Log.setUp logger config world).2) := by
  simp only [setUp, Log.setUp, clear_eq, add, List.nil_append, same]
  cases config.logPath? with
  | none =>
    dsimp only
    split <;> rfl
  | some path =>
    dsimp only
    rcases openLog world path with ⟨opened, fault | location⟩ <;> rfl

/-- A handler with the level of its logger takes just the records that the logger lets through. -/
theorem deliveries_of_single {sink : Sink} (single : roster.handlers = [⟨sink, roster.level⟩])
    (positive : 0 < record.level) :
    roster.deliveries record =
      if roster.threshold ≤ record.level then [sink.delivery (record.line roster.moment)] else [] := by
  have above : roster.level ≤ roster.threshold := by
    unfold threshold
    split
    · next unset =>
      rw [unset]
      decide
    · exact Int.le_refl _
  unfold deliveries
  rw [single]
  by_cases low : record.level < roster.threshold
  · rw [if_pos (.inr low), if_neg (Int.not_le.mpr low)]
  · have high := Int.not_lt.mp low
    have takes : roster.level ≤ record.level := Int.le_trans above high
    rw [if_neg (not_or.mpr ⟨Int.not_le.mpr positive, low⟩), if_pos high]
    simp [takes]

end Roster

/-- An open log file is that of a handler. -/
theorem Logger.handler_of_openFile? {logger : Logger} {location : Location}
    (opened : logger.openFile? = some location) :
    ∃ handler ∈ logger.roster.handlers, handler.sink = .file (some location) := by
  unfold openFile? at opened
  split at opened
  · next place level handled =>
    subst opened
    exact ⟨⟨.file (some location), level⟩, by simp [roster, handled], rfl⟩
  · cases opened

/-- A logger with one handler at most decides about a record as it does handler by handler. -/
theorem Logger.deliveries_roster (logger : Logger) {record : Record} (own : record.IsOwn) :
    logger.deliver record = .dropped ∧ logger.roster.deliveries record = [] ∨
      logger.roster.deliveries record = [logger.deliver record] := by
  have same : logger.roster.threshold = logger.threshold := rfl
  unfold Record.IsOwn at own
  simp only [deliver, Roster.deliveries, own, same, Bool.not_true, Bool.false_eq_true, if_false]
  by_cases silent : record.level ≤ 0
  · exact .inl (by simp [silent])
  by_cases low : record.level < logger.threshold
  · exact .inl (by simp [low])
  simp only [silent, low, or_self, if_false]
  obtain ⟨level, handler, propagates, moment⟩ := logger
  cases handler with
  | none => exact .inr rfl
  | some handler =>
    simp only [roster, Option.toList_some, List.cons_ne_nil, if_false]
    by_cases under : record.level < handler.level
    · refine .inl ⟨if_pos under, ?_⟩
      simp [under]
    · refine .inr ?_
      simp only [under, if_false, List.filter_cons, Int.not_lt.mp under, decide_true, if_true,
        List.filter_nil, List.map_cons, List.map_nil]
      rcases handler with ⟨location | _ | _ | _, level⟩ <;> rfl

end Log

def Machine.carryOut (machine : Machine) : Log.Logger.Delivery → Machine
  | .dropped => machine
  | .toConsole data => { machine with console := machine.console.log data }
  | .toFile location data => { machine with world := machine.world.appendAt location data }

/-- A record that is logged is all that its handlers do with it. -/
theorem Machine.emit_eq_deliveries (machine : Machine) {record : Log.Record} (own : record.IsOwn) :
    machine.emit record = (machine.logger.roster.deliveries record).foldl carryOut machine := by
  rcases machine.logger.deliveries_roster own with ⟨dropped, none⟩ | once
  · rw [none, emit_of_dropped dropped]
    rfl
  · rw [once, List.foldl_cons, List.foldl_nil, emit]
    cases machine.logger.deliver record <;> rfl

end CommandShell
