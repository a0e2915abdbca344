import Scaffold.Proofs.Run.Action

/-! The plan of a run. Which phases are entered and which steps are taken depends on the variables
only, so a blueprint comes to a list of stages, and running it is going through them in order. -/
namespace Scaffold

def Progress.add (p q : Progress) : Progress := ⟨p.taken ++ q.taken, p.skipped ++ q.skipped⟩

@[simp] theorem Progress.join_nil : Progress.join [] = ⟨[], []⟩ := rfl

theorem Progress.join_cons (p : Progress) (ps : List Progress) :
    Progress.join (p :: ps) = p.add (Progress.join ps) := rfl

@[simp] theorem Progress.add_nil (p : Progress) : p.add ⟨[], []⟩ = p := by simp [Progress.add]

@[simp] theorem Progress.nil_add (p : Progress) : Progress.add ⟨[], []⟩ p = p := rfl

theorem Progress.add_assoc (p q r : Progress) : (p.add q).add r = p.add (q.add r) := by
  simp [Progress.add]

namespace Run

theorem ext {α : Type} {x y : Run α} (same : ∀ w, x.outcome w = y.outcome w) : x = y := funext same

/-! Texts and conditions. -/

section Reading

variable (vars : Variables)

def textOf (template : String) : String := (Template.resolve vars template).value

def textWarnings (template : String) : Transcript :=
  (Template.resolve vars template).warnings.map .logged

def isMet : Option String → Bool
  | some c => (Condition.parseWhen c).holds vars
  | none => true

def conditionWarnings : Option String → Transcript
  | some c => (Condition.parseWhen c).warnings.map .logged
  | none => []

@[simp] theorem outcome_text (template : String) (w : World) :
    (text vars template).outcome w = (.ok (textOf vars template), w.append (textWarnings vars template)) :=
  outcome_warned w _

@[simp] theorem outcome_meets (condition : Option String) (w : World) :
    (meets vars condition).outcome w =
      (.ok (isMet vars condition), w.append (conditionWarnings condition)) := by
  cases condition with
  | none => simp [meets, isMet, conditionWarnings]
  | some c => simp only [meets, outcome_warned, Condition.evaluate, isMet, conditionWarnings]

theorem outcome_texts (template : Option String) (w : World) :
    (template.mapM (text vars)).outcome w =
      (.ok (template.map (textOf vars)), w.append (template.elim [] (textWarnings vars))) := by
  cases template with
  | none => simp
  | some t => exact (outcome_bind w _ _).trans (by rw [outcome_text]; rfl)

end Reading

/-! Warnings. -/

def IsLog (t : Transcript) : Prop := ∀ e ∈ t, ∃ warning, e = .logged warning

namespace IsLog

theorem nil : IsLog [] := fun _ member => absurd member List.not_mem_nil

theorem append {t u : Transcript} (first : IsLog t) (second : IsLog u) : IsLog (t ++ u) := by
  intro e member
  rcases List.mem_append.mp member with member | member
  · exact first e member
  · exact second e member

theorem ofWarnings (warnings : List Warning) : IsLog (warnings.map .logged) := by
  intro e member
  obtain ⟨warning, -, rfl⟩ := List.mem_map.mp member
  exact ⟨warning, rfl⟩

theorem ofCondition (condition : Option String) : IsLog (conditionWarnings condition) := by
  cases condition with
  | none => exact nil
  | some c => exact ofWarnings _

theorem ofText (vars : Variables) (template : String) : IsLog (textWarnings vars template) :=
  ofWarnings _

end IsLog

/-! Stages. -/

def showAll (es : Transcript) : Run Unit := es.forM emit

@[simp] theorem outcome_showAll (es : Transcript) (w : World) :
    (showAll es).outcome w = (.ok (), w.append es) :=
  (outcome_forM_emit w id es).trans (by rw [List.map_id])

/-- What a run comes to, one after another. Steps are met in entered phases only, and what they are
does not matter for entering the phase. -/
inductive Stage where
  | entered (title : String) (condition description : Option String)
  | passed (p : Blueprint.Phase)
  | taken (s : Blueprint.Step)
  | skipped (s : Blueprint.Step)

namespace Stage

variable (settings : Settings) (vars : Variables)

def ofStep (s : Blueprint.Step) : Stage := if isMet vars s.condition then taken s else skipped s

def ofPhase (p : Blueprint.Phase) : List Stage :=
  if isMet vars p.condition then
    entered p.title p.condition p.description :: p.steps.map (ofStep vars)
  else [passed p]

/-- The warnings raised at a stage before anything is done. -/
def notes : Stage → Transcript
  | entered title condition description => textWarnings vars title ++ conditionWarnings condition ++
      description.elim [] (textWarnings vars)
  | passed p => textWarnings vars p.title ++ conditionWarnings p.condition
  | taken s | skipped s => textWarnings vars s.title ++ conditionWarnings s.condition

def headline : Stage → Transcript
  | entered title _ description => [.phase (textOf vars title) (description.map (textOf vars))]
  | passed p => [.said .skipped s!"Skipping phase: {textOf vars p.title} (condition not met)"]
  | skipped s => [.said .skipped s!"Skipping step: {textOf vars s.title} (condition not met)"]
  | taken _ => []

def announced (stage : Stage) : Transcript := stage.notes vars ++ stage.headline vars

def skippedTitles : Stage → List String
  | passed p => p.steps.map (·.title)
  | skipped s => [textOf vars s.title]
  | entered .. | taken _ => []

def step? : Stage → Option Blueprint.Step
  | taken s => some s
  | entered .. | passed _ | skipped _ => none

theorem eq_taken {stage : Stage} {s : Blueprint.Step} (taken : stage.step? = some s) :
    stage = .taken s := by
  cases stage with
  | taken t => cases taken; rfl
  | entered => cases taken
  | passed p => cases taken
  | skipped t => cases taken

def run (stage : Stage) : Run Progress := do
  showAll (stage.announced vars)
  match stage.step? with
  | some s =>
    let result ←
      try resolveAndExecute settings vars s
      catch e => throw (.stepFailed (textOf vars s.title) e)
    return ⟨[result], []⟩
  | none => return ⟨[], stage.skippedTitles vars⟩

theorem isLog_notes (stage : Stage) : IsLog (stage.notes vars) := by
  cases stage with
  | entered title condition description =>
    refine .append (.append (.ofText vars title) (.ofCondition condition)) ?_
    cases description with
    | none => exact .nil
    | some d => exact .ofText vars d
  | passed p => exact .append (.ofText vars p.title) (.ofCondition p.condition)
  | taken s => exact .append (.ofText vars s.title) (.ofCondition s.condition)
  | skipped s => exact .append (.ofText vars s.title) (.ofCondition s.condition)

theorem outcome_run_of_untaken {stage : Stage} (untaken : stage.step? = none) (w : World) :
    (stage.run settings vars).outcome w =
      (.ok ⟨[], stage.skippedTitles vars⟩, w.append (stage.announced vars)) := by
  simp only [run, untaken, outcome_bind, outcome_showAll, outcome_pure]

end Stage

def plan (vars : Variables) (phases : List Blueprint.Phase) : List Stage :=
  phases.flatMap (Stage.ofPhase vars)

section Gathering

variable {α β : Type}

def gather (f : α → Run Progress) (xs : List α) : Run Progress :=
  return Progress.join (← xs.mapM f)

@[simp] theorem gather_nil (f : α → Run Progress) : gather f [] = pure ⟨[], []⟩ := by
  simp [gather]

theorem gather_cons (f : α → Run Progress) (x : α) (xs : List α) :
    gather f (x :: xs) = do
      let p ← f x
      let q ← gather f xs
      return p.add q := by
  simp [gather, Progress.join_cons]

theorem gather_append (f : α → Run Progress) (xs ys : List α) :
    gather f (xs ++ ys) = do
      let p ← gather f xs
      let q ← gather f ys
      return p.add q := by
  induction xs with
  | nil => simp only [List.nil_append, gather_nil, pure_bind, Progress.nil_add, bind_pure]
  | cons x xs ih =>
    simp only [List.cons_append, gather_cons, ih, bind_assoc, pure_bind, Progress.add_assoc]

theorem gather_map (f : β → Run Progress) (g : α → β) (xs : List α) :
    gather f (xs.map g) = gather (fun x => f (g x)) xs := by
  rw [gather, List.mapM_map]
  rfl

theorem gather_flatMap (f : β → Run Progress) (g : α → List β) (xs : List α) :
    gather f (xs.flatMap g) = gather (fun x => gather f (g x)) xs := by
  induction xs with
  | nil => simp
  | cons x xs ih => rw [List.flatMap_cons, gather_append, gather_cons, ih]

theorem gather_singleton (f : α → Run Progress) (x : α) : gather f [x] = f x := by
  simp [gather_cons]

end Gathering

section Running

variable (settings : Settings) (vars : Variables)

theorem takeStep_eq (s : Blueprint.Step) :
    takeStep settings vars s = (Stage.ofStep vars s).run settings vars := by
  refine ext fun w => ?_
  cases met : isMet vars s.condition with
  | true =>
    simp only [takeStep, Stage.run, Stage.ofStep, Stage.step?, Stage.announced, Stage.notes,
      Stage.headline, outcome_bind, outcome_text, outcome_meets, outcome_showAll,
      World.append_append, List.append_nil, met, if_true]
  | false =>
    simp only [takeStep, Stage.run, Stage.ofStep, Stage.step?, Stage.announced, Stage.notes,
      Stage.headline, Stage.skippedTitles, outcome_bind, outcome_text, outcome_meets, outcome_showAll,
      outcome_say, World.append_append, met, Bool.false_eq_true, if_false, List.append_assoc]

theorem takePhase_eq (p : Blueprint.Phase) :
    takePhase settings vars p = gather (Stage.run settings vars) (Stage.ofPhase vars p) := by
  refine ext fun w => ?_
  cases met : isMet vars p.condition with
  | true =>
    have steps : takeStep settings vars = fun s => (Stage.ofStep vars s).run settings vars :=
      funext (takeStep_eq settings vars)
    simp only [Stage.ofPhase, met, if_true, gather_cons, gather_map, ← steps]
    rw [outcome_bind, Stage.outcome_run_of_untaken settings vars rfl w]
    simp only [takePhase, gather, outcome_bind, outcome_text, outcome_meets, outcome_texts,
      outcome_emit, outcome_pure, World.append_append, met, if_true, Stage.announced, Stage.notes,
      Stage.headline, Stage.skippedTitles, Progress.nil_add]
    rcases (p.steps.mapM (takeStep settings vars)).outcome _ with ⟨e | a, w'⟩ <;> rfl
  | false =>
    simp only [takePhase, Stage.run, Stage.ofPhase, Stage.step?, Stage.announced, Stage.notes,
      Stage.headline, Stage.skippedTitles, outcome_bind, outcome_text, outcome_meets,
      outcome_showAll, outcome_say, World.append_append, met, Bool.false_eq_true, if_false,
      gather_singleton, List.append_assoc]

/-- The phases of a blueprint in order are the stages of its plan in order. -/
theorem gather_takePhase (phases : List Blueprint.Phase) :
    gather (takePhase settings vars) phases = gather (Stage.run settings vars) (plan vars phases) := by
  rw [plan, gather_flatMap, funext (takePhase_eq settings vars)]

/-! The whole run. -/

def header (about : Blueprint.Metadata) (stepCount : Nat) : Transcript :=
  match about.name with
  | some name => textWarnings vars name ++ [.header (textOf vars name) about.version stepCount]
  | none => []

def completionText (b : Blueprint) : String := b.completionMessage?.getD defaultMessage

def ending (b : Blueprint) (p : Progress) (d : Duration) : Transcript :=
  .summary ⟨p.taken.length, p.skipped.length, d⟩ :: textWarnings vars (completionText b) ++
    [.said .success (textOf vars (completionText b))]

theorem outcome_showHeader (b : Blueprint) (w : World) :
    (showHeader vars b).outcome w = (.ok (), w.append (header vars b.about b.stepCount)) := by
  unfold showHeader header
  cases b.about.name with
  | none => simp
  | some name => simp only [outcome_bind, outcome_text, outcome_emit, World.append_append]

theorem outcome_workflow (b : Blueprint) (w : World) :
    (workflow settings vars b).outcome w =
      match (gather (Stage.run settings vars) (plan vars b.phases)).outcome
        (w.ticked.append (header vars b.about b.stepCount)) with
      | (.error e, w') => (.error e, w')
      | (.ok p, w') => (.ok ⟨p, textOf vars (completionText b)⟩,
          w'.ticked.append (ending vars b p (.ofMilliseconds (w'.clock 0 - w.clock 0)))) := by
  rw [← gather_takePhase]
  simp only [workflow, gather, outcome_bind, outcome_now, outcome_showHeader]
  rcases (b.phases.mapM (takePhase settings vars)).outcome
    (w.ticked.append (header vars b.about b.stepCount)) with ⟨e | ps, w'⟩
  · rfl
  · simp only [outcome_emit, outcome_text, outcome_say, outcome_pure, World.append_append,
      completionText, ending, List.nil_append, List.cons_append]

end Running

end Run

end Scaffold
