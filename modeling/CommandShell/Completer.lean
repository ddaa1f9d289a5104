import CommandShell.Machine
import CommandShell.Resolution

/-! Completion of command names. A unique match is filled in with a space after it, a
longer shared start without one. When nothing can be added, the first request rings
the bell, and a repeated one lists the matches. -/

namespace CommandShell

structure CompletionState where
  lastStart : Option String := none
  repeats : Nat := 0
  deriving DecidableEq, Repr

/-- The state for a request. One with another start than the last is the first of its
kind. -/
def CompletionState.facing (state : CompletionState) (start : String) : CompletionState :=
  if state.lastStart = some start then state else {}

inductive CompletionAction where
  | bell
  | replace
  | list
  deriving DecidableEq, Repr

structure Proposal where
  action : CompletionAction
  text : String := ""
  matched : List String := []
  deriving DecidableEq, Repr

namespace Completer

def sharedStart : List Char → List Char → List Char
  | first :: firsts, second :: seconds =>
    if first = second then first :: sharedStart firsts seconds else []
  | _, _ => []

def lesser (first second : String) : String := if second < first then second else first

def greater (first second : String) : String := if first < second then second else first

/-- The longest text that starts every one of some words. The least and the greatest
word decide: any word between them shares what they share. -/
def longestCommonStart : List String → String
  | [] => ""
  | word :: words =>
    String.ofList (sharedStart (words.foldl lesser word).toList (words.foldl greater word).toList)

def distinct : List String → List String
  | [] => []
  | word :: words =>
    match distinct words with
    | [] => [word]
    | next :: later => if word = next then next :: later else word :: next :: later

def startsWith (start word : String) : Bool := start.toList.isPrefixOf word.toList

def candidatesFor (start : String) (candidates : List String) : List String :=
  distinct ((candidates.filter (startsWith start)).mergeSort)

def propose (state : CompletionState) (request : String) (candidates : List String) :
    Proposal × CompletionState :=
  let start := Text.strip request
  let matched := candidatesFor start candidates
  let state := state.facing start
  match matched with
  | [] => ({ action := .bell }, state)
  | [word] => ({ action := .replace, text := word ++ " ", matched }, {})
  | _ =>
    let shared := longestCommonStart matched
    if start.length < shared.length then ({ action := .replace, text := shared, matched }, {})
    else if state.lastStart = some start && 0 < state.repeats then
      ({ action := .list, text := start, matched }, {})
    else
      ({ action := .bell, text := start, matched },
        { lastStart := some start, repeats := state.repeats + 1 })

def records (request : String) (proposal : Proposal) : List Log.Record :=
  let start := Text.quoted (Text.strip request)
  match proposal.action with
  | .bell => if proposal.matched.isEmpty then [.debug "completion" ("no completion for " ++ start)]
    else []
  | .list =>
    [.debug "completion"
      ("listing " ++ toString proposal.matched.length ++ " matches for " ++ start)]
  | .replace => []

/-- The part of a line before a position. A negative position counts from the end, and
positions outside the line mean its start or its end. -/
def before (line : String) (position : Int) : List Char :=
  let chars := line.toList
  chars.take (if 0 ≤ position then position else max 0 (chars.length + position)).toNat

def isArgument (line : String) (position : Int) : Bool :=
  !(before line position).all Text.isBlank

def display (prompt line : String) (proposal : Proposal) : String :=
  match proposal.action with
  | .bell => "\x07"
  | .replace => ""
  | .list => "\n" ++ "  ".intercalate proposal.matched ++ "\n" ++ prompt ++ line

def replacement? (proposal : Proposal) : Option String :=
  match proposal.action with
  | .replace => some proposal.text
  | .bell | .list => none

end Completer

end CommandShell
