import Scaffold.Blueprint.Basic
import Scaffold.Error
import Scaffold.Files.Path
import Scaffold.Template

/-!
Steps ready to be taken: their type and action are known, the fields that these need are there, and
templates are resolved. Paths are below the root of the run.
-/
namespace Scaffold

structure FindReplace where
  find : String
  replacement : String
  deriving DecidableEq, Repr

inductive FileAction where
  | create (path content : String)
  | edit (path content : String) (change : Option FindReplace)
  | delete (path : String)
  | move (source destination : String)
  deriving DecidableEq, Repr

inductive StepAction where
  | command (command directory : String) (isInteractive : Bool)
      (interactions : List Blueprint.Interaction)
  | directories (paths : List String)
  | file (action : FileAction)
  deriving DecidableEq, Repr

/-- What has to hold after a step. A test that is not known holds. -/
inductive StepCheck where
  | exists (path : String)
  | contains (path text : String)
  | unknown (test : String)
  deriving DecidableEq, Repr

structure ResolvedStep where
  title : String
  description : Option String
  action : StepAction
  check : Option StepCheck
  deriving DecidableEq, Repr

/-! Resolving steps. -/

/-- A computation that may fail and raises warnings all the same. -/
abbrev Resolving := ExceptT Error Warned

namespace ResolvedStep

def invalid (cause : Misconfiguration) : Resolving α := throw (.invalidConfiguration cause)

def need (s : Blueprint.Step) (field : String) : Option α → Resolving α
  | some a => return a
  | none => invalid (.missingField s.type s.title field)

variable (vars : Variables) (root : String)

def text (template : String) : Resolving String := liftM (Template.resolve vars template)

def path (template : String) : Resolving String := return Path.join root (← text vars template)

def commandOf (s : Blueprint.Step) : Resolving StepAction := do
  let command ← need s "cmd" s.command
  let directory ←
    match s.directory with
    | some d => path vars root d
    | none => pure root
  return .command (← text vars command) directory s.isInteractive s.interactions

def singlePath (s : Blueprint.Step) (action : String) : Blueprint.Target → Resolving String
  | .single p => path vars root p
  | .move _ _ => invalid (.pairOfPaths s.title action)

def contentOf (s : Blueprint.Step) : Resolving String :=
  match s.content with
  | some c => text vars c
  | none => pure ""

def changeOf (s : Blueprint.Step) : Resolving (Option FindReplace) :=
  match s.find, s.replacement with
  | some find, some replacement => do
    return some ⟨← text vars find, ← text vars replacement⟩
  | _, _ => return none

def fileActionOf (s : Blueprint.Step) : Resolving FileAction := do
  let action ← need s "action" s.action
  let target ← need s "path" s.target
  match action with
  | "create" => return .create (← singlePath vars root s action target) (← contentOf vars s)
  | "edit" =>
    let change ← changeOf vars s
    return .edit (← singlePath vars root s action target) (← contentOf vars s) change
  | "delete" => return .delete (← singlePath vars root s action target)
  | "move" =>
    match target with
    | .move source destination =>
      return .move (← path vars root source) (← path vars root destination)
    | .single _ => invalid (.singlePath s.title)
  | other => throw (.unsupportedAction other)

def actionOf (s : Blueprint.Step) : Resolving StepAction :=
  match s.type with
  | "command" => commandOf vars root s
  | "directory" => return .directories (← s.paths.mapM (path vars root))
  | "file" => return .file (← fileActionOf vars root s)
  | other => throw (.unsupportedStep other)

def checkOf (title : String) (c : Blueprint.Check) : Resolving StepCheck := do
  let place ← path vars root c.path
  match c.test with
  | "exists" => return .exists place
  | "contains" =>
    match c.text with
    | some t => return .contains place (← text vars t)
    | none => invalid (.missingText title)
  | other => return .unknown other

def ofStep (s : Blueprint.Step) : Resolving ResolvedStep := do
  let action ← actionOf vars root s
  let check ← s.check.mapM (checkOf vars root s.title)
  let title ← text vars s.title
  let description ← s.description.mapM (text vars)
  return ⟨title, description, action, check⟩

end ResolvedStep

/-! Descriptions. -/

def FileAction.describe : FileAction → String
  | create path _ => s!"Would create {path}"
  | edit path _ _ => s!"Would edit {path}"
  | delete path => s!"Would delete {path}"
  | move source destination => s!"Would move {source} to {destination}"

def StepAction.describe : StepAction → String
  | .command line directory isInteractive _ =>
    let mode := if isInteractive then " (interactive)" else ""
    s!"Would run{mode}: {line} in {directory}"
  | directories paths =>
    let list := String.intercalate ", " paths
    s!"Would create directory {list}"
  | file action => action.describe

end Scaffold
