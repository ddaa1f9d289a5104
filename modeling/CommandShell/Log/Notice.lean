import CommandShell.Log.Record
import CommandShell.Log.Template

/-! What a program hands to the log: a message with gaps, arguments for them, and a count of
milliseconds on the clock. It becomes a line once the gaps are filled and the moment is known. -/

namespace CommandShell.Log

structure Notice where
  logger : String
  level : Int
  template : String
  arguments : List String := []
  created : Int
  incident : Option Incident := none
  deriving DecidableEq, Repr

inductive NoticeError where
  | moment (error : MomentError)
  | template (error : TemplateError)
  deriving DecidableEq, Repr

namespace Notice

def record (notice : Notice) (message : String) : Record :=
  { logger := notice.logger, level := notice.level, message, incident := notice.incident }

/-- The line of a notice. The moment is looked up before the gaps are filled. -/
def line (notice : Notice) : Except NoticeError String := do
  let moment ← (Moment.ofMilliseconds notice.created).mapError .moment
  let message ← (fill notice.template notice.arguments).mapError .template
  return (notice.record message).render moment

/-- A message without arguments is written as it stands, as the records of the shell are. -/
theorem line_of_bare {notice : Notice} {moment : Moment} (bare : notice.arguments = [])
    (known : Moment.ofMilliseconds notice.created = .ok moment) :
    notice.line = .ok ((notice.record notice.template).render moment) := by
  simp only [line, known, bare, fill, List.isEmpty_nil, if_true]
  rfl

end Notice

end CommandShell.Log
