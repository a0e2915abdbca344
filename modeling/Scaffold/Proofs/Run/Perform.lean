import Scaffold.Proofs.Run.Selection
import Scaffold.Proofs.Step.Resolution

/-! What a run does apart from what it shows: the selected steps are resolved and executed one after
another. A run and its performance come to the same results and leave the same world but for the
transcript. -/
namespace Scaffold.Run

/-! Resolving and executing steps. -/

variable (settings : Settings) (vars : Variables)

def resolution (s : Blueprint.Step) : Except Error ResolvedStep :=
  (ResolvedStep.ofStep vars settings.root s).result

def resolutionWarnings (s : Blueprint.Step) : Transcript :=
  (ResolvedStep.ofStep vars settings.root s).run.warnings.map .logged

def perform (s : Blueprint.Step) : Run StepResult := do
  executeStep settings (← liftM (resolution settings vars s))

/-- Performs a step, and puts its title to an error. -/
def attempt (s : Blueprint.Step) : Run StepResult :=
  tryCatch (perform settings vars s) fun e => throw (.stepFailed (textOf vars s.title) e)

def closing (step : ResolvedStep) (r : StepResult) : Event :=
  match r.description with
  | some description => .said .message s!"  {description}"
  | none => .said .success step.title

@[simp] theorem outcome_resolved {α : Type} (x : Resolving α) (w : World) :
    (resolved x).outcome w = (x.result, w.append (x.run.warnings.map .logged)) := by
  rw [resolved, outcome_bind, outcome_warned]
  rfl

theorem outcome_perform (s : Blueprint.Step) (w : World) :
    (perform settings vars s).outcome w =
      match resolution settings vars s with
      | .error e => (.error e, w)
      | .ok step => (executeStep settings step).outcome w := by
  rw [perform, outcome_bind, outcome_liftM]
  cases resolution settings vars s <;> rfl

theorem outcome_attempt (s : Blueprint.Step) (w : World) :
    (attempt settings vars s).outcome w =
      (((perform settings vars s).outcome w).1.mapError (.stepFailed (textOf vars s.title)),
        ((perform settings vars s).outcome w).2) := by
  rw [attempt, outcome_tryCatch]
  rcases (perform settings vars s).outcome w with ⟨e | r, w'⟩ <;> rfl

/-- All that a run does at a selected step. -/
theorem outcome_run_taken (s : Blueprint.Step) (w : World) :
    ((Stage.taken s).run settings vars).outcome w =
      let started := w.append
        ((Stage.taken s).announced vars ++ resolutionWarnings settings vars s)
      match resolution settings vars s with
      | .error e => (.error (.stepFailed (textOf vars s.title) e), started)
      | .ok step =>
        match (executeStep settings step).outcome
          (started.append [.step step.title step.description]) with
        | (.error e, w') => (.error (.stepFailed (textOf vars s.title) e), w')
        | (.ok r, w') => (.ok ⟨[r], []⟩, w'.append [closing step r]) := by
  rw [← World.append_append]
  simp only [Stage.run, Stage.step?, outcome_bind, outcome_showAll, outcome_tryCatch,
    resolveAndExecute, outcome_resolved, outcome_emit]
  simp only [resolution, resolutionWarnings]
  cases (ResolvedStep.ofStep vars settings.root s).result with
  | error e => rfl
  | ok step =>
    dsimp only
    rcases (executeStep settings step).outcome _ with ⟨e | r, w'⟩
    · rfl
    · dsimp only [closing]
      cases r.description <;> rfl

theorem quiet_perform (s : Blueprint.Step) : Quiet (perform settings vars s) := by
  refine .bind (.liftM ?_) fun step => quiet_executeStep settings step
  intro e failed
  rcases ResolvedStep.complains_ofStep vars settings.root s e failed with
    ⟨_, rfl⟩ | ⟨_, rfl⟩ | ⟨_, rfl⟩ <;> rfl

section Results

variable {settings vars}

theorem executeStep_ok {step : ResolvedStep} {r : StepResult} {w w' : World}
    (done : (executeStep settings step).outcome w = (.ok r, w')) :
    r.title = step.title ∧
      r.description = if settings.isDryRun then some step.action.describe else none := by
  unfold executeStep at done
  split at done
  · next dry =>
    cases done
    exact ⟨rfl, (if_pos dry).symm⟩
  · next real =>
    obtain ⟨code, w₁, -, done⟩ := bind_eq_ok done
    obtain ⟨-, w₂, -, done⟩ := bind_eq_ok done
    cases done
    exact ⟨rfl, (if_neg real).symm⟩

theorem perform_ok {s : Blueprint.Step} {r : StepResult} {w w' : World}
    (done : (perform settings vars s).outcome w = (.ok r, w')) :
    ∃ step, resolution settings vars s = .ok step ∧
      (executeStep settings step).outcome w = (.ok r, w') := by
  obtain ⟨step, w₁, read, executed⟩ := bind_eq_ok done
  rw [outcome_liftM] at read
  obtain ⟨result, rfl⟩ := Prod.mk.inj read
  exact ⟨step, result, executed⟩

theorem title_of_resolution {s : Blueprint.Step} {step : ResolvedStep}
    (read : resolution settings vars s = .ok step) : step.title = textOf vars s.title :=
  ResolvedStep.title_of_ofStep read

theorem title_of_perform {s : Blueprint.Step} {r : StepResult} {w w' : World}
    (done : (perform settings vars s).outcome w = (.ok r, w')) : r.title = textOf vars s.title := by
  obtain ⟨step, read, executed⟩ := perform_ok done
  exact (executeStep_ok executed).1.trans (title_of_resolution read)

theorem attempt_ok_iff {s : Blueprint.Step} {r : StepResult} {w w' : World} :
    (attempt settings vars s).outcome w = (.ok r, w') ↔
      (perform settings vars s).outcome w = (.ok r, w') := by
  rw [outcome_attempt]
  rcases (perform settings vars s).outcome w with ⟨e | r', w''⟩
  · constructor <;> intro done <;> cases done
  · rfl

theorem attempt_error {s : Blueprint.Step} {e : Error} {w w' : World}
    (failed : (attempt settings vars s).outcome w = (.error e, w')) :
    ∃ cause, e = .stepFailed (textOf vars s.title) cause ∧
      (perform settings vars s).outcome w = (.error cause, w') := by
  rw [outcome_attempt] at failed
  rcases result : (perform settings vars s).outcome w with ⟨cause | r, w''⟩
  · rw [result] at failed
    cases failed
    exact ⟨cause, rfl, rfl⟩
  · rw [result] at failed
    cases failed

theorem mapM_attempt_ok_iff {steps : List Blueprint.Step} {rs : List StepResult} {w w' : World} :
    (steps.mapM (attempt settings vars)).outcome w = (.ok rs, w') ↔
      (steps.mapM (perform settings vars)).outcome w = (.ok rs, w') :=
  ⟨outcome_mapM_mono fun _ _ _ _ => attempt_ok_iff.mp,
    outcome_mapM_mono fun _ _ _ _ => attempt_ok_iff.mpr⟩

theorem titles_of_mapM_perform {steps : List Blueprint.Step} {rs : List StepResult} {w w' : World}
    (done : (steps.mapM (perform settings vars)).outcome w = (.ok rs, w')) :
    rs.map StepResult.title = steps.map fun s => textOf vars s.title := by
  induction steps generalizing w rs with
  | nil => cases done; rfl
  | cons s steps ih =>
    obtain ⟨r, rest, w₁, rfl, first, later⟩ := mapM_cons_eq_ok done
    rw [List.map_cons, List.map_cons, title_of_perform first, ih later]

theorem resolved_of_mapM_perform {steps : List Blueprint.Step} {rs : List StepResult} {w w' : World}
    (done : (steps.mapM (perform settings vars)).outcome w = (.ok rs, w')) :
    ∀ s ∈ steps, ∃ step, resolution settings vars s = .ok step := by
  induction steps generalizing w rs with
  | nil => intro s member; cases member
  | cons s steps ih =>
    obtain ⟨r, rest, w₁, rfl, first, later⟩ := mapM_cons_eq_ok done
    intro t member
    rcases List.mem_cons.mp member with rfl | member
    · obtain ⟨step, read, -⟩ := perform_ok first
      exact ⟨step, read⟩
    · exact ih later t member

end Results

/-- A step with the fields that all types of steps have. -/
def plainStep (type title : String) (condition : Option String) : Blueprint.Step :=
  ⟨title, none, condition, type, none, none, false, [], [], none, none, none, none, none, none⟩

/-- Some steps are performed one after another, and then one fails. -/
def FailsAt (before : List Blueprint.Step) (s : Blueprint.Step) (cause : Error)
    (start stop : World) : Prop :=
  ∃ rs w, (before.mapM (perform settings vars)).outcome start = (.ok rs, w) ∧
    (perform settings vars s).outcome w = (.error cause, stop)

theorem failsAt_of_mapM_attempt {steps : List Blueprint.Step} {e : Error} {w w' : World}
    (failed : (steps.mapM (attempt settings vars)).outcome w = (.error e, w')) :
    ∃ before s after cause, steps = before ++ s :: after ∧
      e = .stepFailed (textOf vars s.title) cause ∧ FailsAt settings vars before s cause w w' := by
  obtain ⟨before, s, after, rs, v, rfl, done, last⟩ := mapM_eq_error failed
  obtain ⟨cause, rfl, stopped⟩ := attempt_error last
  exact ⟨before, s, after, cause, rfl, rfl, rs, v, mapM_attempt_ok_iff.mp done, stopped⟩

theorem mapM_attempt_of_failsAt {before : List Blueprint.Step} {s : Blueprint.Step} {cause : Error}
    {w w' : World} (failed : FailsAt settings vars before s cause w w') (after : List Blueprint.Step) :
    ((before ++ s :: after).mapM (attempt settings vars)).outcome w =
      (.error (.stepFailed (textOf vars s.title) cause), w') := by
  obtain ⟨rs, v, done, stopped⟩ := failed
  refine outcome_mapM_append_error (mapM_attempt_ok_iff.mpr done) ?_
  rw [outcome_attempt, stopped]
  rfl

/-! The simulation. -/

/-- Two computations come to results of which one gives the other, in worlds that are the same but for
what they have shown. -/
def Similar {α β : Type} (g : β → α) (x : Except Error α × World) (y : Except Error β × World) : Prop :=
  x.1 = y.1.map g ∧ x.2.silent = y.2.silent

theorem Similar.bind {α β γ δ : Type} {g : β → α} {h : δ → γ} {x : Run α} {y : Run β}
    {f : α → Run γ} {k : β → Run δ} {w v : World} (first : Similar g (x.outcome w) (y.outcome v))
    (next : ∀ b {w' v'}, w'.silent = v'.silent → Similar h ((f (g b)).outcome w') ((k b).outcome v')) :
    Similar h ((x >>= f).outcome w) ((y >>= k).outcome v) := by
  obtain ⟨results, worlds⟩ := first
  rw [outcome_bind, outcome_bind]
  rcases left : x.outcome w with ⟨r, w'⟩
  rcases right : y.outcome v with ⟨e | b, v'⟩
  · rw [left, right] at results worlds
    simp only [Except.map] at results
    subst results
    exact ⟨rfl, worlds⟩
  · rw [left, right] at results worlds
    simp only [Except.map] at results
    subst results
    exact next b worlds

theorem run_taken_similar (s : Blueprint.Step) {w v : World} (same : w.silent = v.silent) :
    Similar (fun r => ⟨[r], []⟩) (((Stage.taken s).run settings vars).outcome w)
      ((attempt settings vars s).outcome v) := by
  rw [outcome_run_taken, outcome_attempt, outcome_perform]
  cases resolution settings vars s with
  | error e => exact ⟨rfl, same⟩
  | ok step =>
    obtain ⟨results, worlds⟩ := (quiet_executeStep settings step).silent_outcome
      (w := (w.append ((Stage.taken s).announced vars ++ resolutionWarnings settings vars s)).append
        [.step step.title step.description]) (v := v) same
    dsimp only [Similar]
    rw [← results, ← worlds]
    rcases (executeStep settings step).outcome _ with ⟨e | r, w'⟩ <;> exact ⟨rfl, rfl⟩

/-- A run through stages comes to what the performance of their steps comes to. -/
theorem gather_similar (stages : List Stage) {w v : World} (same : w.silent = v.silent) :
    Similar (fun rs => ⟨rs, stages.flatMap (Stage.skippedTitles vars)⟩)
      ((gather (Stage.run settings vars) stages).outcome w)
      (((stages.filterMap Stage.step?).mapM (attempt settings vars)).outcome v) := by
  induction stages generalizing w v with
  | nil => exact ⟨rfl, same⟩
  | cons stage stages ih =>
    rw [gather_cons]
    cases taken : stage.step? with
    | none =>
      have first : Similar (fun _ => ⟨[], stage.skippedTitles vars⟩)
          ((stage.run settings vars).outcome w) ((pure () : Run Unit).outcome v) := by
        rw [Stage.outcome_run_of_untaken settings vars taken]
        exact ⟨rfl, same⟩
      -- The performance does nothing at this stage, which is a step of its own in the simulation.
      have skip : (stages.filterMap Stage.step?).mapM (attempt settings vars) =
          (pure () : Run Unit) >>= fun _ =>
            (stages.filterMap Stage.step?).mapM (attempt settings vars) >>= pure := by simp
      rw [List.filterMap_cons_none taken, skip]
      exact first.bind fun _ _ _ same => (ih same).bind fun rs _ _ same => ⟨rfl, same⟩
    | some s =>
      have steps : (Stage.taken s :: stages).filterMap Stage.step? =
        s :: stages.filterMap Stage.step? := rfl
      rw [Stage.eq_taken taken, steps, List.mapM_cons]
      exact (run_taken_similar settings vars s same).bind fun r _ _ same =>
        (ih same).bind fun rs _ _ same => ⟨rfl, same⟩

theorem performed_of_gather {stages : List Stage} {p : Progress} {w w' v : World}
    (done : (gather (Stage.run settings vars) stages).outcome w = (.ok p, w'))
    (same : w.silent = v.silent) :
    ∃ rs v', ((stages.filterMap Stage.step?).mapM (perform settings vars)).outcome v = (.ok rs, v') ∧
      p = ⟨rs, stages.flatMap (Stage.skippedTitles vars)⟩ ∧ w'.silent = v'.silent := by
  obtain ⟨results, worlds⟩ := gather_similar settings vars stages same
  rw [done] at results worlds
  rcases performed : ((stages.filterMap Stage.step?).mapM (attempt settings vars)).outcome v
    with ⟨e | rs, v'⟩
  · rw [performed] at results
    cases results
  · rw [performed] at results worlds
    cases results
    exact ⟨rs, v', mapM_attempt_ok_iff.mp performed, rfl, worlds⟩

/-- A blueprint comes to what the performance of the selected steps comes to. The end of a run that
comes to it takes one more reading of the clock. -/
theorem workflow_similar (b : Blueprint) (w : World) :
    Similar (fun rs => ⟨⟨rs, (plan vars b.phases).flatMap (Stage.skippedTitles vars)⟩,
        textOf vars (completionText b)⟩)
      ((workflow settings vars b).outcome w)
      (match ((selected vars b.phases).mapM (attempt settings vars)).outcome w.ticked with
        | (.ok rs, v) => (.ok rs, v.ticked)
        | (.error e, v) => (.error e, v)) := by
  have gathered := gather_similar settings vars (plan vars b.phases)
    (w := w.ticked.append (header vars b.about b.stepCount)) (v := w.ticked) rfl
  rw [steps_plan] at gathered
  obtain ⟨results, worlds⟩ := gathered
  rw [outcome_workflow]
  rcases left : (gather (Stage.run settings vars) (plan vars b.phases)).outcome
    (w.ticked.append (header vars b.about b.stepCount)) with ⟨r, w'⟩
  rcases right : ((selected vars b.phases).mapM (attempt settings vars)).outcome w.ticked
    with ⟨e | rs, v⟩
  · rw [left, right] at results worlds
    cases results
    exact ⟨rfl, worlds⟩
  · rw [left, right] at results worlds
    cases results
    refine ⟨rfl, ?_⟩
    exact congrArg World.ticked worlds

theorem result_workflow (b : Blueprint) (w : World) :
    ((workflow settings vars b).outcome w).1 =
      (((selected vars b.phases).mapM (attempt settings vars)).outcome w.ticked).1.map fun rs =>
        ⟨⟨rs, (plan vars b.phases).flatMap (Stage.skippedTitles vars)⟩,
          textOf vars (completionText b)⟩ := by
  rw [(workflow_similar settings vars b w).1]
  rcases ((selected vars b.phases).mapM (attempt settings vars)).outcome w.ticked with ⟨e | rs, v⟩ <;>
    rfl

end Scaffold.Run
