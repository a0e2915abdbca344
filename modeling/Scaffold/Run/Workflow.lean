import Scaffold.Run.Steps

/-!
Running blueprints: first all prompts are answered, then the phases run in their order. Phases and
steps whose condition does not hold are skipped, and the first step that fails ends the run.
-/
namespace Scaffold

structure Progress where
  taken : List StepResult
  skipped : List String
  deriving DecidableEq, Repr

def Progress.join (ps : List Progress) : Progress :=
  ⟨ps.flatMap Progress.taken, ps.flatMap Progress.skipped⟩

structure Completed where
  progress : Progress
  message : String
  deriving DecidableEq, Repr

namespace Run

/-! Variables. -/

/-- Asks the question of a prompt; its templates are resolved with the declared variables only. -/
def answerPrompt (seeded : Variables) (p : Blueprint.Prompt) : Run (String × Value) := do
  let q ← resolved (Question.ofPrompt seeded p)
  return (q.key, (← ask q).value)

def collect (b : Blueprint) : Run Variables := do
  let seeded := Variables.seeded b.declarations
  return seeded.merge (← b.prompts.mapM (answerPrompt seeded))

/-! Phases. -/

variable (settings : Settings) (vars : Variables)

def text (template : String) : Run String := warned (Template.resolve vars template)

/-- A missing condition holds. -/
def meets (condition : Option String) : Run Bool :=
  match condition with
  | some c => warned ((Condition.parseWhen c).evaluate vars)
  | none => return true

def resolveAndExecute (s : Blueprint.Step) : Run StepResult := do
  let step ← resolved (ResolvedStep.ofStep vars settings.root s)
  emit (.step step.title step.description)
  let result ← executeStep settings step
  match result.description with
  | some description => say .message s!"  {description}"
  | none => say .success step.title
  return result

def takeStep (s : Blueprint.Step) : Run Progress := do
  let title ← text vars s.title
  if ← meets vars s.condition then
    let result ←
      try resolveAndExecute settings vars s
      catch e => throw (.stepFailed title e)
    return ⟨[result], []⟩
  else
    say .skipped s!"Skipping step: {title} (condition not met)"
    return ⟨[], [title]⟩

def takePhase (p : Blueprint.Phase) : Run Progress := do
  let title ← text vars p.title
  if ← meets vars p.condition then
    let description ← p.description.mapM (text vars)
    emit (.phase title description)
    return .join (← p.steps.mapM (takeStep settings vars))
  else
    say .skipped s!"Skipping phase: {title} (condition not met)"
    return ⟨[], p.steps.map (·.title)⟩

def defaultMessage : String := "\x7b\x7bproject_name\x7d\x7d is ready!"

def showHeader (b : Blueprint) : Run Unit := do
  match b.about.name with
  | some name => emit (.header (← text vars name) b.about.version b.stepCount)
  | none => return

def workflow (b : Blueprint) : Run Completed := do
  let start ← now
  showHeader vars b
  let progress := Progress.join (← b.phases.mapM (takePhase settings vars))
  let stop ← now
  emit (.summary ⟨progress.taken.length, progress.skipped.length, .ofMilliseconds (stop - start)⟩)
  let message ← text vars (b.completionMessage?.getD defaultMessage)
  say .success message
  return ⟨progress, message⟩

end Run

end Scaffold
