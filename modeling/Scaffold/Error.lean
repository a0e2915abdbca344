import Scaffold.Document.Reader
import Scaffold.Files.Fault
import Scaffold.Pattern.Expr

/-!
Everything that can end a run, by its cause, and what is said about it.
-/
namespace Scaffold

/-- What may be wrong with a blueprint or with an answer to one of its prompts. -/
inductive Misconfiguration where
  | missingField (type title field : String)
  | pairOfPaths (title action : String)
  | singlePath (title : String)
  | missingText (title : String)
  | unknownPromptType (name type : String)
  | invalidPromptPattern (name pattern : String) (fault : Pattern.Fault)
  | refusedAnswer (key error : String)
  | cannotAsk (key setting : String)
  | noOptions (key : String)
  | unknownConflictChoice (text : String)
  deriving DecidableEq, Repr

def Misconfiguration.message : Misconfiguration → String
  | missingField type title field =>
    s!"{type} step '{title}' is missing required field '{field}'"
  | pairOfPaths title action => s!"file step '{title}' uses from/to paths with action '{action}'"
  | singlePath title => s!"file step '{title}' with action 'move' needs path.from and path.to"
  | missingText title => s!"validation of step '{title}' uses 'contains' without 'text'"
  | unknownPromptType name type => s!"Prompt '{name}' has unknown type '{type}'"
  | invalidPromptPattern name pattern fault =>
    s!"Prompt '{name}' has an invalid regex '{pattern}': {fault.message}"
  | refusedAnswer key error => s!"Invalid value for '{key}': {error}"
  | cannotAsk key setting =>
    s!"Cannot prompt for '{key}' in non-interactive mode (set {setting} or give the prompt a default)"
  | noOptions key => s!"Prompt '{key}' has no options to select from"
  | unknownConflictChoice text =>
    s!"'{text}' is not a file conflict choice (overwrite, skip, backup)"

inductive Error where
  | documentNotFound (path : String)
  | malformedDocument (path : String) (fault : Document.Fault)
  | invalidConfiguration (cause : Misconfiguration)
  | unsupportedStep (type : String)
  | unsupportedAction (action : String)
  /-- The exit code is missing when a signal ended the command. -/
  | commandFailed (command : String) (code : Option Nat)
  | commandNotStarted (command : String) (fault : SystemFault)
  | filesystem (path : String) (fault : SystemFault)
  | moveSourceMissing (path : String)
  | invalidPattern (pattern : String) (fault : Pattern.Fault)
  | checkMissing (path : String)
  | checkLacksText (path text : String)
  | checkUnreadable (path : String) (fault : SystemFault)
  | stepFailed (title : String) (cause : Error)
  | system (fault : SystemFault)
  deriving DecidableEq, Repr

namespace Error

def codeText : Option Nat → String
  | some code => toString code
  | none => "none (terminated by signal)"

def message : Error → String
  | documentNotFound path => s!"Configuration file not found: {path}"
  | malformedDocument path fault => s!"Failed to parse config at {path}: {fault.message}"
  | invalidConfiguration cause => s!"Invalid configuration: {cause.message}"
  | unsupportedStep type => s!"Unsupported step type: {type}"
  | unsupportedAction action => s!"Unsupported file action: {action}"
  | commandFailed command code => s!"Command failed with exit code {codeText code}: {command}"
  | commandNotStarted command fault => s!"Failed to start command '{command}': {fault.message}"
  | filesystem path fault => s!"Filesystem error at {path}: {fault.message}"
  | moveSourceMissing path => s!"Cannot move {path}: source file does not exist"
  | invalidPattern pattern fault => s!"Invalid pattern '{pattern}': {fault.message}"
  | checkMissing path => s!"Validation failed: {path} does not exist"
  | checkLacksText path text => s!"Validation failed: {path} does not contain \"{text}\""
  | checkUnreadable path fault =>
    s!"Validation failed: could not read {path}: {fault.message}"
  | stepFailed title cause => s!"Step '{title}' failed: {cause.message}"
  | system fault => s!"IO error: {fault.message}"

end Error

end Scaffold
