import CommandShell.Program

/-! The shell on the command line. It starts in an empty directory of its own tree of
files, and reads all of standard input before it runs the first line. -/

namespace CommandShell

def knownVariables : List String :=
  ["HOME", "PATH", Config.promptVariable, Config.strictQuotesVariable, Config.logLevelVariable,
   Config.logFileVariable, Config.historyFileVariable, Config.historySizeVariable,
   Config.noCompletionVariable]

def emptyWorld : World :=
  { files := { owned := ["home"] }, directory := { location := ["home"] } }

def readEnvironment : IO Environment :=
  knownVariables.filterMapM fun name => do
    return (← IO.getEnv name).map fun value => (name, value)

def exitStatus : ProgramEnd → UInt32
  | .status status | .options status => UInt32.ofNat (status.emod 256).toNat
  | .fault _ => 1

def runProcess (arguments : List String) : IO UInt32 := do
  let call : ProgramCall :=
    { arguments, environment := ← readEnvironment, input := ← (← IO.getStdin).readToEnd
      topLevel := true }
  let result := Program.run call { world := emptyWorld, logger := {} }
  let output ← IO.getStdout
  let errors ← IO.getStderr
  output.write ⟨result.machine.console.output.toArray⟩
  errors.write ⟨result.machine.console.errorBytes.toArray⟩
  match result.ending with
  | .fault fault => errors.putStrLn fault.message
  | .status _ | .options _ => pure ()
  return exitStatus result.ending

end CommandShell

def main (arguments : List String) : IO UInt32 := CommandShell.runProcess arguments
