import CommandShell.Text.Quoted

/-! Failures that the operating system reports: a cause, and the path of the request
where one is known. Number, reason and name of each cause are fixed by the system. -/

namespace CommandShell

inductive SystemCause where
  | noSuchEntry
  | argumentsTooLong
  | execFormat
  | accessDenied
  | entryExists
  | notDirectory
  | isDirectory
  | invalidArgument
  | textBusy
  | nameTooLong
  | tooManyLinks
  deriving DecidableEq, Repr

namespace SystemCause

def number : SystemCause → Nat
  | noSuchEntry => 2
  | argumentsTooLong => 7
  | execFormat => 8
  | accessDenied => 13
  | entryExists => 17
  | notDirectory => 20
  | isDirectory => 21
  | invalidArgument => 22
  | textBusy => 26
  | nameTooLong => 36
  | tooManyLinks => 40

def reason : SystemCause → String
  | noSuchEntry => "No such file or directory"
  | argumentsTooLong => "Argument list too long"
  | execFormat => "Exec format error"
  | accessDenied => "Permission denied"
  | entryExists => "File exists"
  | notDirectory => "Not a directory"
  | isDirectory => "Is a directory"
  | invalidArgument => "Invalid argument"
  | textBusy => "Text file busy"
  | nameTooLong => "File name too long"
  | tooManyLinks => "Too many levels of symbolic links"

/-- The name under which diagnostics report a cause. Causes without a name of their
own share the general one. -/
def label : SystemCause → String
  | noSuchEntry => "FileNotFoundError"
  | accessDenied => "PermissionError"
  | entryExists => "FileExistsError"
  | notDirectory => "NotADirectoryError"
  | isDirectory => "IsADirectoryError"
  | argumentsTooLong | execFormat | invalidArgument | textBusy | nameTooLong
  | tooManyLinks => "OSError"

end SystemCause

/-- A refused request. The path is the one of the request, as it was given. -/
structure SystemError where
  cause : SystemCause
  path : Option String
  deriving DecidableEq, Repr

namespace SystemError

/-- The full account of an error: its number, the reason and the path. -/
def message (error : SystemError) : String :=
  "[Errno " ++ toString error.cause.number ++ "] " ++ error.cause.reason ++
    match error.path with
    | none => ""
    | some path => ": " ++ Text.quoted path

end SystemError

end CommandShell
