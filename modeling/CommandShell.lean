import CommandShell.Builtins
import CommandShell.Bytes
import CommandShell.Completer
import CommandShell.Config
import CommandShell.Console
import CommandShell.Environment
import CommandShell.Execution
import CommandShell.Fault
import CommandShell.FileSystem.Entry
import CommandShell.FileSystem.Path
import CommandShell.FileSystem.Resolve
import CommandShell.FileSystem.Walk
import CommandShell.History
import CommandShell.Interpreter
import CommandShell.Launch
import CommandShell.LineCompleter
import CommandShell.Log.Level
import CommandShell.Log.Logger
import CommandShell.Log.Moment
import CommandShell.Log.Notice
import CommandShell.Log.Record
import CommandShell.Log.Template
import CommandShell.Machine
import CommandShell.Main
import CommandShell.Options
import CommandShell.Program
import CommandShell.Programs
import CommandShell.Proofs.ActionRules
import CommandShell.Proofs.Actions
import CommandShell.Proofs.Answers
import CommandShell.Proofs.Attempts
import CommandShell.Proofs.BuiltinRefusals
import CommandShell.Proofs.CommandFaults
import CommandShell.Proofs.CommandNames
import CommandShell.Proofs.CompletedNames
import CommandShell.Proofs.CompleterCalls
import CommandShell.Proofs.CompletionAnswers
import CommandShell.Proofs.CompletionHistory
import CommandShell.Proofs.ConfigLayers
import CommandShell.Proofs.ConfigRefusals
import CommandShell.Proofs.DirectoriesMade
import CommandShell.Proofs.Entries
import CommandShell.Proofs.FirstWords
import CommandShell.Proofs.GrowingWorlds
import CommandShell.Proofs.HistorySaves
import CommandShell.Proofs.HistoryText
import CommandShell.Proofs.InheritedEnvironment
import CommandShell.Proofs.KeptText
import CommandShell.Proofs.LikeWorlds
import CommandShell.Proofs.LineEffects
import CommandShell.Proofs.LineGrammar
import CommandShell.Proofs.LineMending
import CommandShell.Proofs.LineOutcomes
import CommandShell.Proofs.LineSurvival
import CommandShell.Proofs.LineText
import CommandShell.Proofs.Listings
import CommandShell.Proofs.LogFiles
import CommandShell.Proofs.LogHandlers
import CommandShell.Proofs.LogSetups
import CommandShell.Proofs.Numerals
import CommandShell.Proofs.OperandsInTurn
import CommandShell.Proofs.Operators
import CommandShell.Proofs.Outlets
import CommandShell.Proofs.ParallelActions
import CommandShell.Proofs.ParallelLines
import CommandShell.Proofs.ProgramLines
import CommandShell.Proofs.ProgramStart
import CommandShell.Proofs.Proposals
import CommandShell.Proofs.Quoting
import CommandShell.Proofs.ReadingLoop
import CommandShell.Proofs.Records
import CommandShell.Proofs.RedirectedRuns
import CommandShell.Proofs.RefusedTargets
import CommandShell.Proofs.RepeatedRequests
import CommandShell.Proofs.RepeatedWrites
import CommandShell.Proofs.SearchPaths
import CommandShell.Proofs.SessionHistory
import CommandShell.Proofs.SettingsRead
import CommandShell.Proofs.SharedStarts
import CommandShell.Proofs.SilentLogs
import CommandShell.Proofs.TabPresses
import CommandShell.Proofs.TargetWrites
import CommandShell.Proofs.UnloggedRuns
import CommandShell.Proofs.Walks
import CommandShell.Redirection
import CommandShell.Resolution
import CommandShell.Session
import CommandShell.ShellError
import CommandShell.SystemError
import CommandShell.Text.Blank
import CommandShell.Text.Digit
import CommandShell.Text.Fields
import CommandShell.Text.Integer
import CommandShell.Text.LetterCase
import CommandShell.Text.Printable
import CommandShell.Text.Quoted
import CommandShell.Transcript
import CommandShell.Words
import CommandShell.World
