import Scaffold.Proofs.Run.Commands

/-! Phases and steps whose condition does not hold. A blueprint without them comes to the same results in
the same world, executes the same commands and shows the same, but for what is said of them. -/
namespace Scaffold

/-- Events that phases and steps give rise to, apart from warnings about templates. Neither what is said
of skipped parts belongs to them nor the header and the summary, which count all steps. -/
def Event.isEffect : Event → Bool
  | .said .skipped _ | .logged _ | .header .. | .summary _ => false
  | _ => true

def Transcript.effects (t : Transcript) : Transcript := t.filter Event.isEffect

@[simp] theorem Transcript.effects_append (t u : Transcript) :
    Transcript.effects (t ++ u) = t.effects ++ u.effects := List.filter_append t u

/-- What commands print belongs to the effects. -/
theorem Transcript.printed_effects (t : Transcript) : t.effects.printed = t.printed := by
  rw [effects, printed, List.filterMap_filter]
  refine congrArg (t.filterMap ·) (funext fun e => ?_)
  cases e with
  | said severity => cases severity <;> rfl
  | _ => rfl

namespace Run

open Transcript

theorem IsLog.effects_eq_nil {t : Transcript} (log : IsLog t) : t.effects = [] := by
  refine List.filter_eq_nil_iff.mpr fun e member => ?_
  obtain ⟨warning, rfl⟩ := log e member
  exact Bool.false_ne_true

/-- What comes to be shown is added to the effects, which are the same if they have been before. -/
theorem effects_outcome_of_framed {α : Type} {x : Run α} (framed : Framed x) {w v : World}
    (same : w.silent = v.silent) (shown : w.transcript.effects = v.transcript.effects) :
    (x.outcome w).2.transcript.effects = (x.outcome v).2.transcript.effects := by
  rw [framed.outcome_eq w, framed.outcome_eq v, same]
  simp only [World.prepend, effects_append, shown]

section Pruned

variable (vars : Variables)

def prunedPhase (p : Blueprint.Phase) : Blueprint.Phase :=
  { p with steps := p.steps.filter fun s => isMet vars s.condition }

/-- A blueprint without the phases and the steps whose condition does not hold. -/
def pruned (b : Blueprint) : Blueprint :=
  { b with phases := (b.phases.filter fun p => isMet vars p.condition).map (prunedPhase vars) }

/-- A stage at which nothing is skipped. -/
def Stage.isReached : Stage → Bool
  | entered .. | taken _ => true
  | passed _ | skipped _ => false

theorem Stage.isReached_ofStep (s : Blueprint.Step) :
    (Stage.ofStep vars s).isReached = isMet vars s.condition := by
  unfold ofStep
  cases isMet vars s.condition <;> rfl

theorem ofPhase_prunedPhase {p : Blueprint.Phase} (met : isMet vars p.condition = true) :
    Stage.ofPhase vars (prunedPhase vars p) = (Stage.ofPhase vars p).filter Stage.isReached := by
  have reached : (fun s => (Stage.ofStep vars s).isReached) = fun s => isMet vars s.condition :=
    funext (Stage.isReached_ofStep vars)
  have entered : isMet vars (prunedPhase vars p).condition = true := met
  rw [Stage.ofPhase, Stage.ofPhase, if_pos met, if_pos entered, List.filter_cons_of_pos rfl,
    List.filter_map]
  simp only [Function.comp_def, reached, prunedPhase]

theorem plan_pruned (b : Blueprint) :
    plan vars (pruned vars b).phases = (plan vars b.phases).filter Stage.isReached := by
  rw [pruned]
  dsimp only
  induction b.phases with
  | nil => rfl
  | cons p phases ih =>
    have rest : plan vars (p :: phases) = Stage.ofPhase vars p ++ plan vars phases := rfl
    rw [rest, List.filter_append, ← ih, List.filter_cons]
    cases met : isMet vars p.condition with
    | true =>
      rw [if_pos rfl, List.map_cons, plan, List.flatMap_cons, ofPhase_prunedPhase vars met]
      rfl
    | false =>
      have passed : (Stage.ofPhase vars p).filter Stage.isReached = [] := by
        simp [Stage.ofPhase, met, Stage.isReached]
      rw [if_neg Bool.false_ne_true, passed, List.nil_append]

theorem selected_pruned (b : Blueprint) :
    selected vars (pruned vars b).phases = selected vars b.phases := by
  rw [← steps_plan, ← steps_plan, plan_pruned]
  induction plan vars b.phases with
  | nil => rfl
  | cons stage stages ih =>
    cases stage with
    | entered | taken => rw [List.filter_cons_of_pos rfl, List.filterMap_cons, List.filterMap_cons, ih]
    | passed | skipped => rw [List.filter_cons_of_neg Bool.false_ne_true, ih]; rfl

end Pruned

section Stages

variable {settings : Settings} {vars : Variables}

theorem world_gather_cons_of_ok {stage : Stage} {w w₁ : World} {p : Progress}
    (ran : (stage.run settings vars).outcome w = (.ok p, w₁)) (stages : List Stage) :
    ((gather (Stage.run settings vars) (stage :: stages)).outcome w).2 =
      ((gather (Stage.run settings vars) stages).outcome w₁).2 := by
  rw [gather_cons, outcome_bind, ran]
  refine (congrArg Prod.snd (outcome_bind w₁ _ _)).trans ?_
  rcases (gather (Stage.run settings vars) stages).outcome w₁ with ⟨e | q, w₂⟩ <;> rfl

theorem world_gather_cons_of_error {stage : Stage} {w w₁ : World} {e : Error}
    (failed : (stage.run settings vars).outcome w = (.error e, w₁)) (stages : List Stage) :
    ((gather (Stage.run settings vars) (stage :: stages)).outcome w).2 = w₁ := by
  rw [gather_cons, outcome_bind, failed]

theorem effects_announced {stage : Stage} (unreached : stage.isReached = false) :
    (stage.announced vars).effects = [] := by
  rw [Stage.announced, effects_append, (Stage.isLog_notes vars stage).effects_eq_nil]
  cases stage with
  | passed | skipped => rfl
  | entered | taken => cases unreached

variable (settings vars) in
/-- Stages at which something is skipped can be left out. -/
theorem effects_gather_filter (stages : List Stage) {w v : World} (same : w.silent = v.silent)
    (shown : w.transcript.effects = v.transcript.effects) :
    ((gather (Stage.run settings vars) stages).outcome w).2.transcript.effects =
      ((gather (Stage.run settings vars) (stages.filter Stage.isReached)).outcome v).2.transcript.effects := by
  induction stages generalizing w v with
  | nil => simpa using shown
  | cons stage stages ih =>
    cases reached : stage.isReached with
    -- What is skipped only adds to the transcript, and nothing of that is an effect.
    | false =>
      have untaken : stage.step? = none := by
        cases stage with
        | taken => cases reached
        | _ => rfl
      have ran := Stage.outcome_run_of_untaken settings vars untaken w
      rw [List.filter_cons_of_neg (by simp [reached]), world_gather_cons_of_ok ran]
      refine ih same ?_
      rw [World.transcript_append, effects_append, effects_announced reached, List.append_nil, shown]
    -- Both runs take the stage, and they have differed in their transcripts only.
    | true =>
      have framed := framed_run settings vars stage
      have alike := framed.silent_outcome same
      have added := effects_outcome_of_framed framed same shown
      rw [List.filter_cons_of_pos reached]
      rcases left : (stage.run settings vars).outcome w with ⟨e | p, w₁⟩
      · rcases right : (stage.run settings vars).outcome v with ⟨e' | q, v₁⟩
        · rw [world_gather_cons_of_error left, world_gather_cons_of_error right]
          rwa [left, right] at added
        · rw [left, right] at alike
          cases alike.1
      · rcases right : (stage.run settings vars).outcome v with ⟨e' | q, v₁⟩
        · rw [left, right] at alike
          cases alike.1
        · rw [left, right] at alike added
          rw [world_gather_cons_of_ok left, world_gather_cons_of_ok right]
          exact ih alike.2 added

end Stages

/-! Whole runs. -/

theorem effects_header (vars : Variables) (about : Blueprint.Metadata) (count : Nat) :
    (header vars about count).effects = [] := by
  unfold header
  cases about.name with
  | none => rfl
  | some name =>
    dsimp only
    rw [effects_append, (IsLog.ofText vars name).effects_eq_nil]
    rfl

theorem effects_ending (vars : Variables) (b : Blueprint) (p : Progress) (d : Duration) :
    (ending vars b p d).effects = [.said .success (textOf vars (completionText b))] := by
  have summary : (ending vars b p d).effects =
      Transcript.effects (textWarnings vars (completionText b) ++
        [.said .success (textOf vars (completionText b))]) := rfl
  rw [summary, effects_append, (IsLog.ofText vars _).effects_eq_nil]
  rfl

theorem effects_workflow_pruned (settings : Settings) (vars : Variables) (b : Blueprint) (w : World) :
    ((workflow settings vars b).outcome w).2.transcript.effects =
      ((workflow settings vars (pruned vars b)).outcome w).2.transcript.effects := by
  -- The closing message is shown by a run that succeeds, so both have to succeed or to fail.
  have results : ((workflow settings vars b).outcome w).1.isOk =
      ((workflow settings vars (pruned vars b)).outcome w).1.isOk := by
    rw [result_workflow, result_workflow, selected_pruned]
    rcases ((selected vars b.phases).mapM (attempt settings vars)).outcome w.ticked with ⟨e | rs, v⟩ <;>
      rfl
  have stages := effects_gather_filter settings vars (plan vars b.phases)
    (w := w.ticked.append (header vars b.about b.stepCount))
    (v := w.ticked.append (header vars b.about (pruned vars b).stepCount)) rfl
    (by simp [effects_header])
  rw [← plan_pruned] at stages
  rw [outcome_workflow, outcome_workflow] at results ⊢
  rw [show (pruned vars b).about = b.about from rfl] at results ⊢
  rcases left : (gather (Stage.run settings vars) (plan vars b.phases)).outcome
    (w.ticked.append (header vars b.about b.stepCount)) with ⟨e | p, w₁⟩
  all_goals
    rcases right : (gather (Stage.run settings vars) (plan vars (pruned vars b).phases)).outcome
      (w.ticked.append (header vars b.about (pruned vars b).stepCount)) with ⟨e' | q, v₁⟩ <;>
    rw [left, right] at stages results
  · exact stages
  · cases results
  · cases results
  · simp only [World.transcript_append, World.transcript_ticked, effects_append, effects_ending]
    exact congrArg (· ++ _) stages

/-- Two blueprints come to the same results, with the same error or the same message, and leave the same
world but for the transcript: the same files, the same answers and readings of the clock still to come.
Their phases and steps show the same, questions included, and they execute the same commands in the same
order. -/
structure SameEffects (settings : Settings) (vars : Variables) (w : World) (b c : Blueprint) :
    Prop where
  outcome : ((workflow settings vars b).outcome w).1.map (fun r => (r.progress.taken, r.message)) =
    ((workflow settings vars c).outcome w).1.map fun r => (r.progress.taken, r.message)
  world : ((workflow settings vars b).outcome w).2.silent =
    ((workflow settings vars c).outcome w).2.silent
  shown : ((workflow settings vars b).outcome w).2.transcript.effects =
    ((workflow settings vars c).outcome w).2.transcript.effects
  commands : ∃ commands, Executes settings vars b w commands ∧ Executes settings vars c w commands

theorem outcome_workflow_pruned (settings : Settings) (vars : Variables) (b : Blueprint) (w : World) :
    ((workflow settings vars b).outcome w).1.map (fun r => (r.progress.taken, r.message)) =
        ((workflow settings vars (pruned vars b)).outcome w).1.map
          (fun r => (r.progress.taken, r.message)) ∧
      ((workflow settings vars b).outcome w).2.silent =
        ((workflow settings vars (pruned vars b)).outcome w).2.silent := by
  obtain ⟨results, worlds⟩ := workflow_similar settings vars b w
  obtain ⟨results', worlds'⟩ := workflow_similar settings vars (pruned vars b) w
  rw [selected_pruned] at results' worlds'
  refine ⟨?_, worlds.trans worlds'.symm⟩
  rw [results, results']
  rcases ((selected vars b.phases).mapM (attempt settings vars)).outcome w.ticked with ⟨e | rs, v⟩ <;>
    rfl

theorem executes_pruned {settings : Settings} {vars : Variables} {b : Blueprint} {w : World}
    {commands : List Invocation} (executes : Executes settings vars b w commands) :
    Executes settings vars (pruned vars b) w commands := by
  intro mark
  have effects := effects_workflow_pruned (settings.marking mark) vars b w.silent
  rw [← executes mark, ← printed_effects, ← effects, printed_effects]

namespace SameEffects

variable {settings : Settings} {vars : Variables} {w : World} {b c d : Blueprint}

theorem symm (same : SameEffects settings vars w b c) : SameEffects settings vars w c b := by
  obtain ⟨commands, first, second⟩ := same.commands
  exact ⟨same.outcome.symm, same.world.symm, same.shown.symm, commands, second, first⟩

theorem trans (first : SameEffects settings vars w b c) (second : SameEffects settings vars w c d) :
    SameEffects settings vars w b d := by
  obtain ⟨commands, executes, between⟩ := first.commands
  obtain ⟨others, between', executes'⟩ := second.commands
  cases between.unique between'
  exact ⟨first.outcome.trans second.outcome, first.world.trans second.world,
    first.shown.trans second.shown, commands, executes, executes'⟩

theorem of_pruned (settings : Settings) (vars : Variables) (w : World) (b : Blueprint) :
    SameEffects settings vars w b (pruned vars b) := by
  obtain ⟨commands, executes⟩ := exists_executes settings vars b w
  obtain ⟨outcome, world⟩ := outcome_workflow_pruned settings vars b w
  exact ⟨outcome, world, effects_workflow_pruned settings vars b w, commands, executes,
    executes_pruned executes⟩

theorem of_pruned_eq (same : pruned vars b = pruned vars c) : SameEffects settings vars w b c :=
  (of_pruned settings vars w b).trans (same ▸ (of_pruned settings vars w c).symm)

end SameEffects

/-- A condition of none of the three forms. -/
def IsUnrecognized (condition : Option String) : Prop :=
  ∃ c t, condition = some c ∧ Condition.parseWhen c = .unrecognized t

theorem IsUnrecognized.isMet {condition : Option String} (unrecognized : IsUnrecognized condition)
    (vars : Variables) : isMet vars condition = false := by
  obtain ⟨c, t, rfl, read⟩ := unrecognized
  rw [Run.isMet, read]
  rfl

def Position.phasesWithout (x : Position) : List Blueprint.Phase :=
  x.phasesBefore ++ { x.phase with steps := x.stepsBefore ++ x.stepsAfter } :: x.phasesAfter

theorem pruned_of_phase_skipped (vars : Variables) (b : Blueprint) {before after : List Blueprint.Phase}
    {p : Blueprint.Phase} (split : b.phases = before ++ p :: after)
    (skipped : isMet vars p.condition = false) :
    pruned vars b = pruned vars { b with phases := before ++ after } := by
  simp only [pruned, split, List.filter_append, List.filter_cons, skipped, Bool.false_eq_true, if_false]

theorem pruned_of_step_skipped (vars : Variables) (b : Blueprint) {x : Position}
    (split : b.phases = x.phases) (skipped : isMet vars x.step.condition = false) :
    pruned vars b = pruned vars { b with phases := x.phasesWithout } := by
  simp only [pruned, split, Position.phases, Position.phasesWithout, List.filter_append,
    List.filter_cons, List.map_append]
  cases entered : isMet vars x.phase.condition with
  | false => rfl
  | true =>
    have same : prunedPhase vars { x.phase with steps := x.stepsBefore ++ x.step :: x.stepsAfter } =
        prunedPhase vars { x.phase with steps := x.stepsBefore ++ x.stepsAfter } := by
      simp only [prunedPhase, List.filter_append, List.filter_cons, skipped, Bool.false_eq_true, if_false]
    simp only [if_true, List.map_cons, same]

/-- A blueprint has the effects of the blueprint without the phases and steps whose condition does not
hold. A phase or a step with an unrecognized condition has no effect, wherever it stands. -/
theorem skipped_without_effect (settings : Settings) (vars : Variables) (w : World) (b : Blueprint) :
    SameEffects settings vars w b (pruned vars b) ∧
      (∀ before p after, b.phases = before ++ p :: after → IsUnrecognized p.condition →
        SameEffects settings vars w b { b with phases := before ++ after }) ∧
      ∀ x : Position, b.phases = x.phases → IsUnrecognized x.step.condition →
        SameEffects settings vars w b { b with phases := x.phasesWithout } := by
  refine ⟨.of_pruned settings vars w b, ?_, ?_⟩
  · intro before p after split unrecognized
    exact .of_pruned_eq (pruned_of_phase_skipped vars b split (unrecognized.isMet vars))
  · intro x split unrecognized
    exact .of_pruned_eq (pruned_of_step_skipped vars b split (unrecognized.isMet vars))

/-- A step of an unknown type does no harm under a condition that nobody can read. -/
theorem unknown_step_without_effect :
    let folders := plainStep "directory" "Folders" none
    let wish := plainStep "magic" "Wish" (some "wanted && needed")
    let b : Blueprint := { Blueprint.empty with phases := [⟨"Setup", none, none, [folders, wish]⟩] }
    let w : World := ⟨⟨.empty, [], .typed []⟩, [], id, .terminal, []⟩
    let settings : Settings := ⟨".", false, fun _ here => ⟨some 0, "", [], here⟩⟩
    IsUnrecognized wish.condition ∧
      SameEffects settings ∅ w b { b with phases := [⟨"Setup", none, none, [folders]⟩] } := by
  intro folders wish b w settings
  have unrecognized : IsUnrecognized wish.condition :=
    ⟨"wanted && needed", "wanted && needed", rfl, by decide +kernel⟩
  exact ⟨unrecognized, (skipped_without_effect settings ∅ w b).2.2
    ⟨[], ⟨"Setup", none, none, []⟩, [folders], wish, [], []⟩ rfl unrecognized⟩

end Run

end Scaffold
