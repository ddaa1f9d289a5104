import CommandShell.Bytes

/-! The interpreter of a script. A script starts with a hash and an exclamation mark, and
the rest of its first line names a program, with at most one argument. The system looks
only at the head of a file, so a line may be cut: an argument is then taken as far as it
is known, but a name that may go on is not. -/

namespace CommandShell

/-- The interpreter that a script names. An empty name stands for the working directory. -/
structure Interpreter where
  name : Bytes
  argument : Option Bytes
  deriving DecidableEq, Repr

namespace Interpreter

/-- How many bytes of a file are looked at. A shorter file is filled up with zeros. -/
def headLength : Nat := 256

def head (data : Bytes) : Bytes :=
  data.take headLength ++ List.replicate (headLength - data.length) 0

def isBlank (byte : UInt8) : Bool := byte = 0x20 || byte = 0x09

def endsName (byte : UInt8) : Bool := isBlank byte || byte = 0

/-- The line that names the interpreter, given the head without its first two bytes. A
line feed behind a zero ends no line. Without a line feed, all of the head but its last
byte is the line, if the end of the name can be seen. -/
def line? (head : Bytes) : Option Bytes :=
  let text := head.takeWhile (· ≠ 0)
  if text.contains 0x0A then some (text.takeWhile (· ≠ 0x0A))
  else if (head.dropWhile isBlank).any endsName then some head.dropLast
  else none

/-- The interpreter that a line names. A zero ends the argument, and one right behind the
name ends the line. -/
def ofLine? (line : Bytes) : Option Interpreter :=
  let text := ((line.reverse.dropWhile isBlank).reverse).dropWhile isBlank
  if text.isEmpty then none
  else
    let argument := match text.dropWhile (!endsName ·) with
      | [] => none
      | byte :: rest =>
        if byte = 0 then none else some ((rest.dropWhile isBlank).takeWhile (· ≠ 0))
    some ⟨text.takeWhile (!endsName ·), argument⟩

def ofScript? (data : Bytes) : Option Interpreter :=
  match head data with
  | 0x23 :: 0x21 :: rest => (line? rest).bind ofLine?
  | _ => none

end Interpreter

end CommandShell
