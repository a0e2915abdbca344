import Scaffold.Display.Theme

/-!
Printing what a run shows. A quiet display leaves out notes and the progress by phases and steps;
warnings and errors go to the error output.
-/
namespace Scaffold

inductive Mode where
  | verbose
  | normal
  | quiet
  deriving DecidableEq, Repr, Inhabited

def Mode.showsNotes (m : Mode) : Bool := m ≠ .quiet
def Mode.showsProgress (m : Mode) : Bool := m ≠ .quiet

/-- How a run is displayed: in plain lines, on a terminal with a theme, or not at all. -/
inductive Display where
  | silent
  | plain (mode : Mode)
  | terminal (mode : Mode) (theme : Theme)
  deriving DecidableEq, Repr

namespace Display

def stepWord (count : Nat) : String := if count = 1 then "step" else "steps"

def versionText (version : Option String) : String := (version.map (" v" ++ ·)).getD ""

def shows (mode : Mode) : Event → Bool
  | .said .note _ => mode.showsNotes
  | .phase _ _ => mode.showsProgress
  | .step _ _ => mode.showsProgress
  | _ => true

def saidLine (theme : Theme) (severity : Severity) (text : String) : Printed :=
  let line := theme.said severity text ++ "\n"
  match severity with
  | .message => .outText line
  | .warning | .error => .errText line
  | _ => .outText ("  " ++ line)

/-- The lines for an event, whatever the mode. -/
def eventLines (theme : Theme) (spacedHeader : Bool) : Event → List Printed
  | .said severity text => [saidLine theme severity text]
  | .phase title description => [.outText s!"\n{theme.phaseLine title description}\n"]
  | .step title description => [.outText s!"{theme.stepLine title description}\n"]
  | .header name version count =>
    let version := versionText version
    let version := if spacedHeader then " " ++ theme.dim.apply version else version
    let rest := theme.dim.apply s!"· {count} {stepWord count}"
    [.outText s!"\n{theme.headerLine name}{version} {rest}\n\n"]
  | .summary s =>
    let label := theme.highlight.apply "Summary:"
    [.outText s!"\n{label} {theme.dim.apply s.line}\n"]
  | .asked _ => []
  | .logged _ => []
  | .printed p => [p]

/-- What is printed for an event. -/
def print (d : Display) (e : Event) : List Printed :=
  match d, e with
  | _, .printed p => [p]
  | silent, _ => []
  | plain mode, e => if shows mode e then eventLines .plain false e else []
  | terminal mode theme, e => if shows mode e then eventLines theme true e else []

def printAll (d : Display) (t : Transcript) : List Printed :=
  t.flatMap d.print

end Display

end Scaffold
