import CommandShell.ShellError

/-! Redirection of one output stream into a file. A word is an operator only as a
whole, so a file name such as `a>b` is an ordinary argument. -/

namespace CommandShell

inductive Stream where
  | output
  | error
  deriving DecidableEq, Repr

inductive WriteMode where
  | overwrite
  | append
  deriving DecidableEq, Repr

def WriteMode.name : WriteMode → String
  | overwrite => "OVERWRITE"
  | append => "APPEND"

/-- What an operator asks for: a stream to redirect, and how to write the file. -/
structure Operator where
  stream : Stream
  mode : WriteMode
  deriving DecidableEq, Repr

namespace Operator

def ofWord? : String → Option Operator
  | ">" | "1>" => some ⟨.output, .overwrite⟩
  | ">>" | "1>>" => some ⟨.output, .append⟩
  | "2>" => some ⟨.error, .overwrite⟩
  | "2>>" => some ⟨.error, .append⟩
  | _ => none

def isWord (word : String) : Bool := (ofWord? word).isSome

end Operator

structure Redirection where
  stream : Stream
  mode : WriteMode
  target : String
  deriving DecidableEq, Repr

structure CommandLine where
  argv : List String
  redirection : Option Redirection := none
  deriving DecidableEq, Repr

namespace CommandLine

def name (command : CommandLine) : String := command.argv.headD ""

def arguments (command : CommandLine) : List String := command.argv.tail

/-- Read the redirections of a line in order. Each operator takes the next word as
its target; words that are neither operator nor target are passed over. -/
def redirections : List String → Except ShellError (List Redirection)
  | [] => .ok []
  | word :: rest =>
    match Operator.ofWord? word with
    | none => redirections rest
    | some operator =>
      match rest with
      | [] => .error (.redirectionSyntax word "newline")
      | target :: later =>
        if Operator.isWord target then .error (.redirectionSyntax word target)
        else (redirections later).map (⟨operator.stream, operator.mode, target⟩ :: ·)

def commandWords (words : List String) : List String :=
  words.takeWhile fun word => !Operator.isWord word

/-- The command of a line. Of several redirections the last one counts. -/
def ofWords (words : List String) : Except ShellError CommandLine :=
  (redirections words).map fun found => ⟨commandWords words, found.getLast?⟩

end CommandLine

end CommandShell
