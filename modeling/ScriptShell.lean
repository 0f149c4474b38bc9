import ScriptShell.FileTree.Change
import ScriptShell.Main
import ScriptShell.Host
import ScriptShell.Proofs.Session.Run
import ScriptShell.Proofs.Session.Nesting
import ScriptShell.Proofs.Path.Steps
import ScriptShell.Proofs.FileTree.Canonical
import ScriptShell.Proofs.Script.Reentry
import ScriptShell.Proofs.Statement.Excess
import ScriptShell.Proofs.Statement.Newline
import ScriptShell.Proofs.Statement.Terminators
import ScriptShell.Proofs.Script.Chunks
import ScriptShell.Proofs.Session.Activity
import ScriptShell.Proofs.Session.Recursion
import ScriptShell.Proofs.Session.Course
import ScriptShell.Proofs.Session.Failing
import ScriptShell.Proofs.Session.Exiting
import ScriptShell.Proofs.Statement.Grammar
import ScriptShell.Proofs.Statement.Derivation
import ScriptShell.Proofs.Statement.Completion
import ScriptShell.Proofs.Statement.Quoting
import ScriptShell.Proofs.Session.Limit
import ScriptShell.Proofs.Session.Turns
import ScriptShell.Proofs.Statement.Names
import ScriptShell.Proofs.Statement.Normal
import ScriptShell.Proofs.Statement.Separator
import ScriptShell.Proofs.Session.Sequence
import ScriptShell.Proofs.Statement.Uses
import ScriptShell.Proofs.FileTree.Shape
import ScriptShell.Proofs.Session.Context
import ScriptShell.Proofs.Session.Agreement
import ScriptShell.Proofs.Session.Secrecy
import ScriptShell.Proofs.Statement.LineEnds
import ScriptShell.Proofs.Session.LineEnds
import ScriptShell.Proofs.Statement.Commands
import ScriptShell.Proofs.Statement.Continuation
import ScriptShell.Proofs.FileTree.Spelling
import ScriptShell.Proofs.Script.Loading
import ScriptShell.Proofs.Script.Opening
import ScriptShell.Proofs.Session.Refusal
import ScriptShell.Proofs.Text.Natural
import ScriptShell.Proofs.Session.Settings
import ScriptShell.Proofs.Session.Answers
import ScriptShell.Proofs.FileTree.Directory
import ScriptShell.Proofs.Arguments
import ScriptShell.Proofs.Session.Echo
import ScriptShell.Proofs.Session.Directory
import ScriptShell.Proofs.Script.Lending
