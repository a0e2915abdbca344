import Mathlib.Data.List.Flatten
import Scaffold.Proofs.Run.Plan

/-! The steps of a blueprint in document order, which of them a run selects, and where they stand in
its plan. -/
namespace Scaffold.Run

structure Placed where
  phase : Blueprint.Phase
  step : Blueprint.Step

def placed (phases : List Blueprint.Phase) : List Placed :=
  phases.flatMap fun p => p.steps.map fun s => ⟨p, s⟩

theorem length_placed (b : Blueprint) : (placed b.phases).length = b.stepCount := by
  simp [placed, Blueprint.stepCount, List.length_flatMap]

section Selecting

variable (vars : Variables)

def Placed.isSelected (x : Placed) : Bool :=
  isMet vars x.phase.condition && isMet vars x.step.condition

/-- The title under which a run reports a step: the templates in it are resolved only in a phase that
is entered. -/
def Placed.title (x : Placed) : String :=
  if isMet vars x.phase.condition then textOf vars x.step.title else x.step.title

/-- The steps that a run takes as long as none of them fails. -/
def selected (phases : List Blueprint.Phase) : List Blueprint.Step :=
  (phases.filter fun p => isMet vars p.condition).flatMap fun p =>
    p.steps.filter fun s => isMet vars s.condition

@[simp] theorem Stage.step?_ofStep (s : Blueprint.Step) :
    (Stage.ofStep vars s).step? = if isMet vars s.condition then some s else none := by
  unfold Stage.ofStep
  split <;> rfl

theorem steps_ofStep (steps : List Blueprint.Step) :
    (steps.map (Stage.ofStep vars)).filterMap Stage.step? =
      steps.filter fun s => isMet vars s.condition := by
  induction steps with
  | nil => rfl
  | cons s steps ih =>
    rw [List.map_cons, List.filterMap_cons, Stage.step?_ofStep, ih]
    cases met : isMet vars s.condition <;> simp [met]

theorem steps_plan (phases : List Blueprint.Phase) :
    (plan vars phases).filterMap Stage.step? = selected vars phases := by
  induction phases with
  | nil => rfl
  | cons p phases ih =>
    have rest : plan vars (p :: phases) = Stage.ofPhase vars p ++ plan vars phases := rfl
    rw [rest, List.filterMap_append, ih]
    cases met : isMet vars p.condition with
    | true =>
      rw [Stage.ofPhase, if_pos met, List.filterMap_cons_none rfl, steps_ofStep]
      simp [selected, met]
    | false => simp [Stage.ofPhase, selected, met, Stage.step?]

theorem selected_eq_placed (phases : List Blueprint.Phase) :
    selected vars phases = ((placed phases).filter (Placed.isSelected vars)).map Placed.step := by
  induction phases with
  | nil => rfl
  | cons p phases ih =>
    have rest : placed (p :: phases) = (p.steps.map fun s => ⟨p, s⟩) ++ placed phases := rfl
    rw [rest, List.filter_append, List.map_append, ← ih, List.filter_map, List.map_map]
    cases met : isMet vars p.condition with
    | true => simp [selected, met, Function.comp_def, Placed.isSelected]
    | false => simp [selected, met, Function.comp_def, Placed.isSelected]

theorem title_of_selected {x : Placed} (chosen : x.isSelected vars = true) :
    x.title vars = textOf vars x.step.title := by
  have entered : isMet vars x.phase.condition = true := (Bool.and_eq_true_iff.mp chosen).1
  rw [Placed.title, if_pos entered]

theorem skippedTitles_ofSteps (p : Blueprint.Phase) (entered : isMet vars p.condition = true)
    (steps : List Blueprint.Step) :
    (steps.map (Stage.ofStep vars)).flatMap (Stage.skippedTitles vars) =
      ((steps.map fun s => (⟨p, s⟩ : Placed)).filter fun x => !x.isSelected vars).map
        (Placed.title vars) := by
  induction steps with
  | nil => rfl
  | cons s steps ih =>
    rw [List.map_cons, List.flatMap_cons, ih, List.map_cons, List.filter_cons]
    cases met : isMet vars s.condition with
    | true => simp [Stage.ofStep, Stage.skippedTitles, Placed.isSelected, met, entered]
    | false => simp [Stage.ofStep, Stage.skippedTitles, Placed.isSelected, Placed.title, met, entered]

theorem skippedTitles_plan (phases : List Blueprint.Phase) :
    (plan vars phases).flatMap (Stage.skippedTitles vars) =
      ((placed phases).filter fun x => !x.isSelected vars).map (Placed.title vars) := by
  induction phases with
  | nil => rfl
  | cons p phases ih =>
    have rest : plan vars (p :: phases) = Stage.ofPhase vars p ++ plan vars phases := rfl
    have steps : placed (p :: phases) = (p.steps.map fun s => ⟨p, s⟩) ++ placed phases := rfl
    rw [rest, steps, List.flatMap_append, List.filter_append, List.map_append, ih]
    congr 1
    cases met : isMet vars p.condition with
    | true =>
      rw [Stage.ofPhase, if_pos met, List.flatMap_cons, skippedTitles_ofSteps vars p met]
      rfl
    | false =>
      have none : (fun s => !Placed.isSelected vars ⟨p, s⟩) = fun _ => true :=
        funext fun s => by simp [Placed.isSelected, met]
      have all : p.steps.filter (fun _ => true) = p.steps := List.filter_eq_self.mpr fun _ _ => rfl
      rw [List.filter_map]
      simp [Stage.ofPhase, Stage.skippedTitles, Placed.title, met, Function.comp_def, none, all]

/-- A place of a step in the phases of a blueprint: what is before it, and what is after it. The steps of
the phase itself are those before it, the step and those after it. -/
structure Position where
  phasesBefore : List Blueprint.Phase
  phase : Blueprint.Phase
  stepsBefore : List Blueprint.Step
  step : Blueprint.Step
  stepsAfter : List Blueprint.Step
  phasesAfter : List Blueprint.Phase

namespace Position

variable (x : Position)

def phases : List Blueprint.Phase :=
  x.phasesBefore ++
    { x.phase with steps := x.stepsBefore ++ x.step :: x.stepsAfter } :: x.phasesAfter

def isSelected : Bool := isMet vars x.phase.condition && isMet vars x.step.condition

def stepsTaken : List Blueprint.Step :=
  selected vars x.phasesBefore ++ x.stepsBefore.filter fun s => isMet vars s.condition

def stages : List Stage :=
  plan vars x.phasesBefore ++
    .entered x.phase.title x.phase.condition x.phase.description ::
      x.stepsBefore.map (Stage.ofStep vars)

theorem steps_stages : (x.stages vars).filterMap Stage.step? = x.stepsTaken vars := by
  rw [stages, List.filterMap_append, steps_plan, List.filterMap_cons_none rfl, steps_ofStep]
  rfl

/-- The stages before a selected step do not depend on what is after it. -/
theorem plan_phases (chosen : x.isSelected vars = true) :
    ∃ after, plan vars x.phases = x.stages vars ++ .taken x.step :: after := by
  obtain ⟨entered, met⟩ := Bool.and_eq_true_iff.mp chosen
  have step : Stage.ofStep vars x.step = .taken x.step := if_pos met
  refine ⟨x.stepsAfter.map (Stage.ofStep vars) ++ plan vars x.phasesAfter, ?_⟩
  rw [plan, phases, List.flatMap_append, List.flatMap_cons, Stage.ofPhase, if_pos entered,
    List.map_append, List.map_cons, step, stages]
  simp [plan]

end Position

theorem ofPhase_eq_append_taken {p : Blueprint.Phase} {before after : List Stage}
    {s : Blueprint.Step} (split : Stage.ofPhase vars p = before ++ .taken s :: after) :
    ∃ stepsBefore stepsAfter, p.steps = stepsBefore ++ s :: stepsAfter ∧
      isMet vars p.condition = true ∧ isMet vars s.condition = true ∧
      before = .entered p.title p.condition p.description ::
        stepsBefore.map (Stage.ofStep vars) := by
  unfold Stage.ofPhase at split
  split at split
  · next entered =>
    rcases List.cons_eq_append_iff.mp split with ⟨-, stage⟩ | ⟨before, rfl, steps⟩
    · cases (List.cons.inj stage).1
    · obtain ⟨stepsBefore, rest, same, rfl, tail⟩ := List.map_eq_append_iff.mp steps
      obtain ⟨x, stepsAfter, rfl, stage, -⟩ := List.map_eq_cons_iff.mp tail
      unfold Stage.ofStep at stage
      split at stage
      · next met =>
        cases stage
        exact ⟨stepsBefore, stepsAfter, same, entered, met, rfl⟩
      · cases stage
  · rcases List.cons_eq_append_iff.mp split with ⟨-, stage⟩ | ⟨_, -, empty⟩
    · cases (List.cons.inj stage).1
    · simp at empty

/-- A step that is taken has a position in the blueprint. -/
theorem plan_eq_append_taken {phases : List Blueprint.Phase} {before after : List Stage}
    {s : Blueprint.Step} (split : plan vars phases = before ++ .taken s :: after) :
    ∃ x : Position, phases = x.phases ∧ x.isSelected vars = true ∧ s = x.step ∧
      before = x.stages vars := by
  induction phases generalizing before with
  | nil => simp [plan] at split
  | cons p phases ih =>
    have rest : plan vars (p :: phases) = Stage.ofPhase vars p ++ plan vars phases := rfl
    rw [rest] at split
    -- The step is in a later phase, or it is in the first one.
    rcases List.append_eq_append_iff.mp split with ⟨more, rfl, later⟩ | ⟨more, inside, later⟩
    · obtain ⟨x, rfl, chosen, rfl, rfl⟩ := ih later
      exact ⟨{ x with phasesBefore := p :: x.phasesBefore }, rfl, chosen, rfl,
        by simp [Position.stages, plan]⟩
    · cases more with
      | nil =>
        have later : plan vars phases = [] ++ .taken s :: after := later.symm
        obtain ⟨x, -, -, -, front⟩ := ih later
        simp [Position.stages] at front
      | cons stage more =>
        obtain ⟨rfl, -⟩ := List.cons.inj later
        obtain ⟨stepsBefore, stepsAfter, steps, entered, met, rfl⟩ := ofPhase_eq_append_taken vars inside
        refine ⟨⟨[], p, stepsBefore, s, stepsAfter, phases⟩, ?_, ?_, rfl, rfl⟩
        · rw [Position.phases, ← steps]
          rfl
        · exact Bool.and_eq_true_iff.mpr ⟨entered, met⟩

end Selecting

end Scaffold.Run
