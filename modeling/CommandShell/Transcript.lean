import CommandShell.Bytes

/-! Bytes that are collected piece by piece. The pieces are kept apart, so that adding
one does not touch the others; only all together they mean something. -/

namespace CommandShell

structure Transcript where
  /-- The pieces, the newest first. -/
  pieces : List Bytes := []
  deriving DecidableEq, Repr

namespace Transcript

def toBytes (transcript : Transcript) : Bytes :=
  transcript.pieces.foldl (fun later piece => piece ++ later) []

def ofBytes (data : Bytes) : Transcript := ⟨[data]⟩

def add (transcript : Transcript) (data : Bytes) : Transcript := ⟨data :: transcript.pieces⟩

theorem foldl_append (pieces : List Bytes) (later : Bytes) :
    pieces.foldl (fun later piece => piece ++ later) later =
      pieces.foldl (fun later piece => piece ++ later) [] ++ later := by
  induction pieces generalizing later with
  | nil => rfl
  | cons piece pieces ih =>
    rw [List.foldl_cons, List.foldl_cons, ih (piece ++ later), ih (piece ++ [])]
    simp

@[simp]
theorem toBytes_empty : toBytes {} = [] := rfl

@[simp]
theorem toBytes_ofBytes (data : Bytes) : (ofBytes data).toBytes = data := by
  simp [ofBytes, toBytes]

@[simp]
theorem toBytes_add (transcript : Transcript) (data : Bytes) :
    (transcript.add data).toBytes = transcript.toBytes ++ data := by
  simp [add, toBytes, foldl_append _ data]

end Transcript

end CommandShell
