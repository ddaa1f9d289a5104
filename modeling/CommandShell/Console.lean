import CommandShell.Transcript

/-! The two streams on which the shell and its commands talk to the user. A session has
those of the process unless it was given others, and a program always has those of the
process. So each piece is kept with its writer. Log records may share the error stream. -/

namespace CommandShell

/-- A piece of a stream. The shell and its builtins write on the stream of the session; a
program and the log write on that of the process. -/
inductive Chunk where
  | written (data : Bytes)
  | inherited (data : Bytes)
  | logged (data : Bytes)
  deriving DecidableEq, Repr

namespace Chunk

def bytes : Chunk → Bytes
  | written data | inherited data | logged data => data

def writtenBytes : Chunk → Bytes
  | written data | inherited data => data
  | logged _ => []

end Chunk

/-- The pieces of the two streams, the newest first. -/
structure Console where
  outputChunks : List Chunk := []
  errorChunks : List Chunk := []
  deriving Repr

namespace Console

def write (console : Console) (data : Bytes) : Console :=
  { console with outputChunks := .written data :: console.outputChunks }

def writeError (console : Console) (data : Bytes) : Console :=
  { console with errorChunks := .written data :: console.errorChunks }

/-- Let a program write on the streams that it has from the process. -/
def inherit (console : Console) (output errors : Bytes) : Console :=
  { console with
    outputChunks := .inherited output :: console.outputChunks
    errorChunks := .inherited errors :: console.errorChunks }

def log (console : Console) (data : Bytes) : Console :=
  { console with errorChunks := .logged data :: console.errorChunks }

/-- What has come out on the output stream, be it that of the session or of the process. -/
def output (console : Console) : Bytes :=
  (Transcript.mk (console.outputChunks.map Chunk.bytes)).toBytes

def errorBytes (console : Console) : Bytes :=
  (Transcript.mk (console.errorChunks.map Chunk.bytes)).toBytes

/-- What has come out on the error stream besides log records. -/
def writtenErrors (console : Console) : Bytes :=
  (Transcript.mk (console.errorChunks.map Chunk.writtenBytes)).toBytes

@[simp]
theorem output_write (console : Console) (data : Bytes) :
    (console.write data).output = console.output ++ data :=
  Transcript.toBytes_add ⟨console.outputChunks.map Chunk.bytes⟩ data

@[simp]
theorem errorBytes_writeError (console : Console) (data : Bytes) :
    (console.writeError data).errorBytes = console.errorBytes ++ data :=
  Transcript.toBytes_add ⟨console.errorChunks.map Chunk.bytes⟩ data

@[simp]
theorem output_inherit (console : Console) (output errors : Bytes) :
    (console.inherit output errors).output = console.output ++ output :=
  Transcript.toBytes_add ⟨console.outputChunks.map Chunk.bytes⟩ output

@[simp]
theorem errorBytes_inherit (console : Console) (output errors : Bytes) :
    (console.inherit output errors).errorBytes = console.errorBytes ++ errors :=
  Transcript.toBytes_add ⟨console.errorChunks.map Chunk.bytes⟩ errors

@[simp]
theorem errorBytes_log (console : Console) (data : Bytes) :
    (console.log data).errorBytes = console.errorBytes ++ data :=
  Transcript.toBytes_add ⟨console.errorChunks.map Chunk.bytes⟩ data

@[simp]
theorem writtenErrors_writeError (console : Console) (data : Bytes) :
    (console.writeError data).writtenErrors = console.writtenErrors ++ data :=
  Transcript.toBytes_add ⟨console.errorChunks.map Chunk.writtenBytes⟩ data

@[simp]
theorem writtenErrors_inherit (console : Console) (output errors : Bytes) :
    (console.inherit output errors).writtenErrors = console.writtenErrors ++ errors :=
  Transcript.toBytes_add ⟨console.errorChunks.map Chunk.writtenBytes⟩ errors

@[simp]
theorem writtenErrors_log (console : Console) (data : Bytes) :
    (console.log data).writtenErrors = console.writtenErrors := by
  have added := Transcript.toBytes_add ⟨console.errorChunks.map Chunk.writtenBytes⟩ []
  rw [List.append_nil] at added
  exact added

end Console

end CommandShell
