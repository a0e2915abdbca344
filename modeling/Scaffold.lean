import Scaffold.Blueprint.Encode
import Scaffold.Main
import Scaffold.Proofs.Text.Cutting
import Scaffold.Proofs.Template.TwoPass
import Scaffold.Proofs.Run.Action
import Scaffold.Proofs.Run.Plan
import Scaffold.Proofs.Run.Selection
import Scaffold.Proofs.Run.Perform
import Scaffold.Proofs.Step.Resolution
import Scaffold.Proofs.Step.Readiness
import Scaffold.Proofs.Run.Shown
import Scaffold.Proofs.Run.Completion
import Scaffold.Proofs.Run.Failure
import Scaffold.Proofs.Run.DryRun
import Scaffold.Proofs.Run.Commands
import Scaffold.Proofs.Run.Pruning
import Scaffold.Proofs.Run.FileEffects
import Scaffold.Proofs.Run.Backups
import Scaffold.Proofs.Shell.Interleaving
import Scaffold.Proofs.Shell.Dialogue
import Scaffold.Proofs.Shell.Operator
import Scaffold.Proofs.Run.Interview
import Scaffold.Proofs.Shell.Console
import Scaffold.Proofs.Run.Reordering
import Scaffold.Proofs.Condition.Grammar
import Scaffold.Proofs.Template.Agreement
import Scaffold.Proofs.Template.Dependence
import Scaffold.Proofs.Template.Idempotence
import Scaffold.Proofs.Pattern.Replacing
import Scaffold.Proofs.Document.Reading
import Scaffold.Proofs.Blueprint.RoundTrip
import Scaffold.Proofs.Files.Repetition
import Scaffold.Proofs.Run.Rerun
import Scaffold.Proofs.Pattern.Literal
import Scaffold.Proofs.Run.Editing
import Scaffold.Proofs.Shell.Captured
import Scaffold.Proofs.Run.DirectoryLists
import Scaffold.Proofs.Prompt.Answers
import Scaffold.Proofs.Run.Rules
import Scaffold.Proofs.Run.Checks
import Scaffold.Proofs.Number.Printing
import Scaffold.Proofs.Display.Duration
import Scaffold.Proofs.Step.BackupNames
import Scaffold.Proofs.CommandLine.Modes
import Scaffold.Proofs.Blueprint.Revision
