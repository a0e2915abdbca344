import Scaffold.Run.FileActions

/-!
Taking steps and checking what has to hold after them.
-/
namespace Scaffold

structure Settings where
  root : String
  /-- Whether steps are only described. -/
  isDryRun : Bool
  shell : Shell

structure StepResult where
  title : String
  code : Option Nat
  description : Option String
  deriving DecidableEq, Repr

namespace Run

/-- Makes directories with their ancestors, and says which of them are there already. -/
def makeDirectories (paths : List String) : Run Unit :=
  paths.forM fun path => do
    if Files.isDirectory (← files) (← directory) path then
      say .note s!"Directory {path} already exists"
    else onFiles (.filesystem path) fun here => Files.makeDirectories here path

def check : StepCheck → Run Unit
  | .exists path => do
    if !Files.has (← files) (← directory) path then throw (.checkMissing path)
  | .contains path text => do
    match Files.readText (← files) (← directory) path with
    | .ok content => if !Text.contains content text then throw (.checkLacksText path text)
    | .error f => throw (.checkUnreadable path f)
  | .unknown test => say .warning s!"Unknown validation test '{test}', skipping"

def commandDirectory (command path : String) : Run Location := do
  if command.toList.contains '\x00' || path.toList.contains '\x00' then
    throw (.commandNotStarted command .nulInCommand)
  let t ← files
  let here ← directory
  match Files.locate t here path with
  | .ok place =>
    if t.isDirectory place then return place
    else throw (.commandNotStarted command .notADirectory)
  | .error f => throw (.commandNotStarted command f)

/-- Runs a command to its end, whatever its code. -/
def execute (shell : Shell) (command path : String)
    (interactions : Option (List Blueprint.Interaction)) : Run Finished := do
  let place ← commandDirectory command path
  let finished := shell ⟨command, place, interactions⟩ (← get).surroundings
  modify fun w => { w with surroundings := finished.surroundings }
  finished.printed.forM fun p => emit (.printed p)
  return finished

def runCommand (shell : Shell) (command path : String)
    (interactions : Option (List Blueprint.Interaction)) : Run Finished := do
  let finished ← execute shell command path interactions
  if finished.isSuccess then return finished
  else throw (.commandFailed command finished.code)

/-- Takes an action; the exit code is that of its command. -/
def takeAction (shell : Shell) : StepAction → Run (Option Nat)
  | .command command path isInteractive interactions => do
    let finished ← runCommand shell command path (if isInteractive then some interactions else none)
    return finished.code
  | .directories paths => do
    makeDirectories paths
    return none
  | .file action => do
    action.take
    return none

def executeStep (settings : Settings) (s : ResolvedStep) : Run StepResult := do
  if settings.isDryRun then return ⟨s.title, none, some s.action.describe⟩
  let code ← takeAction settings.shell s.action
  s.check.forM check
  return ⟨s.title, code, none⟩

end Run

end Scaffold
