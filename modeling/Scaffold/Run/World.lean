import Scaffold.Display.Event
import Scaffold.Error
import Scaffold.Files.Operations
import Scaffold.Prompt.Respondent
import Scaffold.Shell.Command
import Scaffold.Step.Resolved

/-!
The world of a run, and computations in it. A failure ends a computation and leaves the world as it
was at that point.
-/
namespace Scaffold

structure World where
  surroundings : Surroundings
  directory : Location
  /-- The readings of the clock still to come, in milliseconds. -/
  clock : Nat → Nat
  respondent : Respondent
  transcript : Transcript

abbrev Run (α : Type) := ExceptT Error (StateM World) α

namespace Run

def emit (e : Event) : Run Unit :=
  modify fun w => { w with transcript := w.transcript ++ [e] }

def say (severity : Severity) (text : String) : Run Unit := emit (.said severity text)

def warned (x : Warned α) : Run α := do
  x.warnings.forM fun w => emit (.logged w)
  return x.value

/-- Goes on with a resolved part of a blueprint, after the warnings about it. -/
def resolved (x : Resolving α) : Run α := do
  liftM (← warned x.run)

def now : Run Nat := do
  let w ← get
  set { w with clock := fun n => w.clock (n + 1) }
  return w.clock 0

def files : Run FileTree := return (← get).surroundings.files
def directory : Run Location := return (← get).directory

def setFiles (t : FileTree) : Run Unit :=
  modify fun w => { w with surroundings := { w.surroundings with files := t } }

def onFiles (failure : SystemFault → Error) (action : Location → Files.Action α) : Run α := do
  let (result, t) := (action (← directory)).run (← files)
  setFiles t
  liftM (result.mapError failure)

def ask (q : Question) : Run Answer := do
  let w ← get
  if w.respondent.isScript then emit (.asked q.key)
  let (result, respondent) := w.respondent.ask q
  modify fun w => { w with respondent := respondent }
  liftM result

end Run

end Scaffold
