import CommandShell.Session

/-! The completer that a line editor calls. The editor asks it for one text after another until it
gets none. Only the first of these calls makes a proposal, and only it can have an answer. -/

namespace CommandShell

/-- A call of a line editor: the word to complete, how many texts it has been asked for before, and
the line with the position of the word. -/
structure CompleterCall where
  text : String
  index : Int
  line : String
  position : Int
  deriving DecidableEq, Repr

structure LineCompleter where
  session : Session
  /-- What was proposed last, which is nothing for a word that is not to be completed. -/
  proposed : Option Proposal := none

namespace LineCompleter

def reply (proposed : Option Proposal) (index : Int) : Option String :=
  if index = 0 then proposed.bind Completer.replacement? else none

/-- Answer a call. A proposal that cannot be made leaves the last one in its place. -/
def answer (completer : LineCompleter) (call : CompleterCall) :
    Except Fault (Option String) × LineCompleter :=
  if call.index ≠ 0 then (.ok (reply completer.proposed call.index), completer)
  else
    match completer.session.propose call.text call.line call.position with
    | (.error fault, session) => (.error fault, { completer with session })
    | (.ok proposed, session) => (.ok (reply proposed call.index), { session, proposed })

theorem reply_later (proposed : Option Proposal) {index : Int} (later : index ≠ 0) :
    reply proposed index = none := if_neg later

/-- What is kept has no part in an answer, nor in what comes of the session. -/
theorem answer_eq_tab (completer : LineCompleter) (call : CompleterCall) :
    completer.session.tab call.text call.index call.line call.position =
      ((completer.answer call).1, (completer.answer call).2.session) := by
  unfold answer Session.tab
  by_cases first : call.index = 0
  · simp only [first, ne_eq, not_true_eq_false, if_false]
    rcases completer.session.propose call.text call.line call.position with
      ⟨fault | proposed, session⟩ <;> rfl
  · simp only [ne_eq, first, not_false_eq_true, if_true, reply_later _ first]

end LineCompleter

end CommandShell
