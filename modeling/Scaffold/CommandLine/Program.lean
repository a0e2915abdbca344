import Scaffold.Blueprint.Load
import Scaffold.CommandLine.Arguments
import Scaffold.CommandLine.LogFilter
import Scaffold.Display.Render
import Scaffold.Run.Workflow

/-!
The program as a function: from its arguments, its environment and the files around it to what it
prints, its exit code and the files that it leaves.
-/
namespace Scaffold.CommandLine

structure Situation where
  arguments : List String
  environment : Std.ExtTreeMap String String
  directory : Location
  files : FileTree
  input : List UInt8
  onTerminal : Bool
  clock : Nat → Nat
  shell : Shell

structure Outcome where
  code : Nat
  printed : List Printed
  files : FileTree

def versionText : String := "kiln 0.1.0\n"

def helpText (setting : Option String) : String :=
  let value := setting.getD ""
  s!"Declarative, interactive project scaffolding workflows

Usage: kiln [OPTIONS] <CONFIG>

Arguments:
  <CONFIG>  Workflow document (YAML, or JSON with a .json extension)

Options:
      --cwd <CWD>        Directory the workflow runs in (defaults to the current directory) [env: KILN_CWD={value}]
      --dry-run          Describe each step without running it
      --non-interactive  Answer prompts from KILN_PROMPT_* variables and defaults
  -v, --verbose          Show verbose output
  -q, --quiet            Minimal output
      --no-color         Disable colored output
      --debug            Enable debug logging
  -h, --help             Print help
  -V, --version          Print version
"

namespace UsageFault

def message : UsageFault → String
  | .missingArgument => "the following required arguments were not provided: <CONFIG>"
  | .unknownArgument => "unexpected argument found"
  | .conflict => "an argument cannot be used with another one or multiple times"
  | .invalidValue => "a value is required for an argument but none was supplied"
  | .tooManyValues => "unexpected value for an argument found"
  | .help => "the help was asked for"
  | .version => "the version was asked for"

def outcome (setting : Option String) (files : FileTree) (f : UsageFault) : Outcome :=
  match f with
  | .help => ⟨0, [.outText (helpText setting)], files⟩
  | .version => ⟨0, [.outText versionText], files⟩
  | f =>
    let text := s!"error: {f.message}\n\nUsage: kiln [OPTIONS] <CONFIG>\n\nFor more information, try '--help'.\n"
    ⟨2, [.errText text], files⟩

end UsageFault

/-- Variables of the environment that mark a run without an operator, whatever their values. -/
def unattendedNames : List String :=
  ["CI", "GITHUB_ACTIONS", "GITLAB_CI", "CIRCLECI", "TRAVIS", "JENKINS_URL"]

def directorySetting : String := "KILN_CWD"

def logSetting : String := "RUST_LOG"

namespace Situation

def isInteractive (s : Situation) (a : Arguments) : Bool :=
  !a.has .nonInteractive && !unattendedNames.any s.environment.contains && s.onTerminal

def theme (s : Situation) (a : Arguments) : Theme :=
  if a.has .noColour || s.environment.contains "NO_COLOR" then .plain else .coloured

def display (s : Situation) (a : Arguments) : Display :=
  if s.isInteractive a then .terminal a.mode (s.theme a) else .plain a.mode

def respondent (s : Situation) (a : Arguments) : Respondent :=
  if s.isInteractive a then .terminal else .environment s.environment

def world (s : Situation) (a : Arguments) : World where
  surroundings := ⟨s.files, s.input, .input⟩
  directory := s.directory
  clock := s.clock
  respondent := s.respondent a
  transcript := []

def logFilter (s : Situation) (a : Arguments) : LogFilter :=
  if a.has .debug then .default
  else (s.environment[logSetting]?.bind LogFilter.ofText?).getD .default

def root (s : Situation) (a : Arguments) : String :=
  let here := Path.ofNames s.directory
  a.directory.elim here (Path.join here)

end Situation

def runBlueprint (s : Situation) (a : Arguments) : Run Unit := do
  let b ← liftM (Blueprint.load (← Run.files) s.directory a.config)
  let vars ← Run.collect b
  let isDryRun := a.has .dryRun
  if isDryRun then
    Run.say .message "Dry run: no commands will be executed and no files changed"
  let _ ← Run.workflow ⟨s.root a, isDryRun, s.shell⟩ vars b

/-- The lines for an event; warnings about templates go to the error output whatever the display. -/
def lines (d : Display) (f : LogFilter) : Event → List Printed
  | .logged w => if f.showsWarnings w.origin then [.errText s!"WARN {w.message}\n"] else []
  | e => d.print e

def runArguments (s : Situation) (a : Arguments) : Outcome :=
  let (result, w) := (runBlueprint s a).run (s.world a)
  let (code, ending) := match result with
    | .ok _ => (0, [])
    | .error e => (1, [Event.said .error e.message])
  ⟨code, (w.transcript ++ ending).flatMap (lines (s.display a) (s.logFilter a)), w.surroundings.files⟩

def run (s : Situation) : Outcome :=
  let setting := s.environment[directorySetting]?
  match Arguments.ofTexts setting s.arguments with
  | .ok a => runArguments s a
  | .error f => f.outcome setting s.files

end Scaffold.CommandLine
