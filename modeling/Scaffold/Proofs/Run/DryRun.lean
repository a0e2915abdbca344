import Scaffold.Proofs.Run.Perform

/-! Dry runs. A dry run touches nothing, and a run that executes its steps keeps to what the dry run has
foretold until a step fails. -/
namespace Scaffold

/-- Events that come from outside a run: a question was asked, or a command has printed something. -/
def Event.isForeign : Event → Bool
  | .asked _ | .printed _ => true
  | _ => false

def Settings.dry (settings : Settings) : Settings := { settings with isDryRun := true }

def Settings.real (settings : Settings) : Settings := { settings with isDryRun := false }

namespace Run

/-! Computations that do nothing but show. -/

/-- A computation that comes to the same and shows the same wherever it runs, and does nothing else. -/
def ShowsOnly {α : Type} (x : Run α) : Prop :=
  ∃ r es, (∀ e ∈ es, e.isForeign = false) ∧ ∀ w, x.outcome w = (r, w.append es)

theorem ShowsOnly.pure {α : Type} (a : α) : ShowsOnly (pure a : Run α) :=
  ⟨.ok a, [], by simp, by simp⟩

theorem ShowsOnly.bind {α β : Type} {x : Run α} {f : α → Run β} (first : ShowsOnly x)
    (next : ∀ a, ShowsOnly (f a)) : ShowsOnly (x >>= f) := by
  obtain ⟨r, es, own, ran⟩ := first
  cases r with
  | error e =>
    refine ⟨.error e, es, own, fun w => ?_⟩
    rw [outcome_bind, ran w]
  | ok a =>
    obtain ⟨r, fs, own', ran'⟩ := next a
    refine ⟨r, es ++ fs, ?_, fun w => ?_⟩
    · intro e member
      rcases List.mem_append.mp member with member | member
      · exact own e member
      · exact own' e member
    · rw [outcome_bind, ran w]
      exact (ran' _).trans (by rw [World.append_append])

section Showing

variable (settings : Settings) (vars : Variables)

theorem IsLog.isForeign_eq_false {t : Transcript} (log : IsLog t) {e : Event} (member : e ∈ t) :
    e.isForeign = false := by
  obtain ⟨warning, rfl⟩ := log e member
  rfl

theorem isForeign_of_mem_announced {stage : Stage} {e : Event} (member : e ∈ stage.announced vars) :
    e.isForeign = false := by
  rcases List.mem_append.mp member with member | member
  · exact (Stage.isLog_notes vars stage).isForeign_eq_false member
  · cases stage with
    | taken s => cases member
    | _ =>
      cases List.mem_singleton.mp member
      rfl

theorem executeStep_of_isDryRun {settings : Settings} (dry : settings.isDryRun = true)
    (step : ResolvedStep) :
    executeStep settings step = pure ⟨step.title, none, some step.action.describe⟩ :=
  if_pos dry

theorem showsOnly_run (stage : Stage) : ShowsOnly (stage.run settings.dry vars) := by
  cases taken : stage.step? with
  | none => exact ⟨_, _, fun e => isForeign_of_mem_announced vars,
      Stage.outcome_run_of_untaken settings.dry vars taken⟩
  | some s =>
    rw [Stage.eq_taken taken]
    have started : ∀ e ∈ (Stage.taken s).announced vars ++ resolutionWarnings settings.dry vars s,
        e.isForeign = false := by
      intro e member
      rcases List.mem_append.mp member with member | member
      · exact isForeign_of_mem_announced vars member
      · exact (IsLog.ofWarnings _).isForeign_eq_false member
    have ran := outcome_run_taken settings.dry vars s
    cases read : resolution settings.dry vars s with
    | error cause =>
      simp only [read] at ran
      exact ⟨_, _, started, ran⟩
    | ok step =>
      have described : executeStep settings.dry step = _ := executeStep_of_isDryRun rfl step
      simp only [read, described, outcome_pure, World.append_append] at ran
      refine ⟨_, _, ?_, ran⟩
      intro e member
      rcases List.mem_append.mp member with member | member
      · rcases List.mem_append.mp member with member | member
        · exact started e member
        · cases List.mem_singleton.mp member
          rfl
      · cases List.mem_singleton.mp member
        rfl

theorem showsOnly_gather (stages : List Stage) :
    ShowsOnly (gather (Stage.run settings.dry vars) stages) := by
  induction stages with
  | nil =>
    rw [gather_nil]
    exact .pure _
  | cons stage stages ih =>
    rw [gather_cons]
    exact .bind (showsOnly_run settings vars stage) fun _ => .bind ih fun _ => .pure _

end Showing

/-! What a dry run leaves as it is. -/

variable (settings : Settings) (vars : Variables)

theorem isForeign_of_mem_header {about : Blueprint.Metadata} {count : Nat} {e : Event}
    (member : e ∈ header vars about count) : e.isForeign = false := by
  unfold header at member
  split at member
  · rcases List.mem_append.mp member with member | member
    · exact (IsLog.ofText vars _).isForeign_eq_false member
    · cases List.mem_singleton.mp member
      rfl
  · cases member

theorem isForeign_of_mem_ending {b : Blueprint} {p : Progress} {d : Duration} {e : Event}
    (member : e ∈ ending vars b p d) : e.isForeign = false := by
  rcases List.mem_append.mp member with member | member
  · rcases List.mem_cons.mp member with rfl | member
    · rfl
    · exact (IsLog.ofText vars _).isForeign_eq_false member
  · cases List.mem_singleton.mp member
    rfl

/-- A run changes nothing outside of it and has it neither answer nor print anything; and it comes to the
same and shows the same whatever the files, the directory, the respondent and the shell are. -/
structure Detached (b : Blueprint) (w : World) : Prop where
  unchanged : ((workflow settings vars b).outcome w).2.surroundings = w.surroundings ∧
    ((workflow settings vars b).outcome w).2.directory = w.directory ∧
    ((workflow settings vars b).outcome w).2.respondent = w.respondent
  shows : ∃ es, ((workflow settings vars b).outcome w).2.transcript = w.transcript ++ es ∧
    ∀ e ∈ es, e.isForeign = false
  independent : ∀ surroundings directory respondent shell,
    (workflow { settings with shell } vars b).outcome { w with surroundings, directory, respondent } =
      (((workflow settings vars b).outcome w).1,
        { ((workflow settings vars b).outcome w).2 with surroundings, directory, respondent })

theorem run_dry_of_shell (shell : Shell) (stage : Stage) :
    stage.run { settings.dry with shell } vars = stage.run settings.dry vars := by
  have same : executeStep { settings.dry with shell } = executeStep settings.dry := by
    funext step
    rw [executeStep_of_isDryRun rfl, executeStep_of_isDryRun rfl]
  unfold Stage.run resolveAndExecute
  rw [same]

/-- What a dry run comes to and shows depends on the clock only, which is read twice. -/
theorem outcome_workflow_dry (b : Blueprint) : ∃ (r : Except Error Progress) (es : Transcript),
    (∀ e ∈ es, e.isForeign = false) ∧
    ∀ shell w, (workflow { settings.dry with shell } vars b).outcome w = match r with
      | .error e => (.error e, w.ticked.append es)
      | .ok p => (.ok ⟨p, textOf vars (completionText b)⟩, w.ticked.ticked.append
          (es ++ ending vars b p (.ofMilliseconds (w.clock 1 - w.clock 0)))) := by
  obtain ⟨r, es, own, ran⟩ := showsOnly_gather settings vars (plan vars b.phases)
  refine ⟨r, header vars b.about b.stepCount ++ es, ?_, fun shell w => ?_⟩
  · intro e member
    rcases List.mem_append.mp member with member | member
    · exact isForeign_of_mem_header vars member
    · exact own e member
  · have steps : Stage.run { settings.dry with shell } vars = Stage.run settings.dry vars :=
      funext (run_dry_of_shell settings vars shell)
    rw [outcome_workflow, steps, ran, World.append_append]
    cases r with
    | error e => rfl
    | ok p =>
      dsimp only
      rw [World.ticked_append, World.append_append]
      rfl

theorem detached_dry (b : Blueprint) (w : World) : Detached settings.dry vars b w := by
  obtain ⟨r, es, own, ran⟩ := outcome_workflow_dry settings vars b
  have here := ran settings.shell w
  cases r with
  | error e =>
    have here : (workflow settings.dry vars b).outcome w = (.error e, w.ticked.append es) := here
    refine ⟨?_, ?_, fun surroundings directory respondent shell => ?_⟩
    · rw [here]
      exact ⟨rfl, rfl, rfl⟩
    · rw [here]
      exact ⟨es, rfl, own⟩
    · rw [here]
      exact ran shell _
  | ok p =>
    have here : (workflow settings.dry vars b).outcome w =
      (.ok ⟨p, textOf vars (completionText b)⟩, w.ticked.ticked.append
        (es ++ ending vars b p (.ofMilliseconds (w.clock 1 - w.clock 0)))) := here
    refine ⟨?_, ?_, fun surroundings directory respondent shell => ?_⟩
    · rw [here]
      exact ⟨rfl, rfl, rfl⟩
    · rw [here]
      refine ⟨_, rfl, fun e member => ?_⟩
      rcases List.mem_append.mp member with member | member
      · exact own e member
      · exact isForeign_of_mem_ending vars member
    · rw [here]
      exact ran shell _

/-! What a dry run foretells. -/

variable {settings vars}

def forecast (step : ResolvedStep) : StepResult := ⟨step.title, none, some step.action.describe⟩

theorem outcome_perform_dry (s : Blueprint.Step) (w : World) :
    (perform settings.dry vars s).outcome w = ((resolution settings vars s).map forecast, w) := by
  have same : resolution settings.dry vars s = resolution settings vars s := rfl
  rw [outcome_perform, same]
  cases resolution settings vars s with
  | error cause => rfl
  | ok step =>
    dsimp only
    rw [executeStep_of_isDryRun rfl]
    rfl

theorem resolution_of_failsAt_dry {before : List Blueprint.Step} {s : Blueprint.Step} {cause : Error}
    {w w' : World} (failed : FailsAt settings.dry vars before s cause w w') :
    resolution settings vars s = .error cause := by
  obtain ⟨rs, v, -, stopped⟩ := failed
  rw [outcome_perform_dry] at stopped
  cases read : resolution settings vars s with
  | error e =>
    rw [read] at stopped
    cases stopped
    rfl
  | ok step =>
    rw [read] at stopped
    cases stopped

theorem forecast_of_mapM_perform {before after : List Blueprint.Step} {s : Blueprint.Step}
    {step : ResolvedStep} {rs : List StepResult} {w w' : World}
    (done : ((before ++ s :: after).mapM (perform settings.dry vars)).outcome w = (.ok rs, w'))
    (read : resolution settings vars s = .ok step) : rs[before.length]? = some (forecast step) := by
  induction before generalizing w rs with
  | nil =>
    obtain ⟨r, rest, w₁, rfl, first, -⟩ := mapM_cons_eq_ok done
    rw [outcome_perform_dry, read] at first
    cases first
    rfl
  | cons t before ih =>
    obtain ⟨r, rest, w₁, rfl, -, later⟩ := mapM_cons_eq_ok done
    exact ih later

/-- Steps that a dry run goes through are executed with the same titles, or one of them fails once it is
resolved. -/
theorem performance_of_listed {steps : List Blueprint.Step} {listed : List StepResult} {w v : World}
    (foretold : (steps.mapM (perform settings.dry vars)).outcome w = (.ok listed, v)) :
    (∃ done v', (steps.mapM (attempt settings.real vars)).outcome w = (.ok done, v') ∧
      done.map StepResult.title = listed.map StepResult.title) ∨
    ∃ before s after step cause rs w₁ w₂, steps = before ++ s :: after ∧
      resolution settings vars s = .ok step ∧ listed[before.length]? = some (forecast step) ∧
      (before.mapM (perform settings.real vars)).outcome w = (.ok rs, w₁) ∧
      (executeStep settings.real step).outcome w₁ = (.error cause, w₂) ∧
      (steps.mapM (attempt settings.real vars)).outcome w =
        (.error (.stepFailed step.title cause), w₂) := by
  rcases performed : (steps.mapM (attempt settings.real vars)).outcome w with ⟨e | done, v'⟩
  · right
    obtain ⟨before, s, after, cause, rfl, rfl, rs, w₁, began, stopped⟩ :=
      failsAt_of_mapM_attempt settings.real vars performed
    obtain ⟨step, read⟩ := resolved_of_mapM_perform foretold s (by simp)
    have read : resolution settings vars s = .ok step := read
    have executed : (executeStep settings.real step).outcome w₁ = (.error cause, v') := by
      have same : resolution settings.real vars s = .ok step := read
      rw [outcome_perform, same] at stopped
      exact stopped
    refine ⟨before, s, after, step, cause, rs, w₁, v', rfl, read,
      forecast_of_mapM_perform foretold read, began, executed, ?_⟩
    rw [title_of_resolution read]
  · left
    refine ⟨done, v', rfl, ?_⟩
    rw [titles_of_mapM_perform (mapM_attempt_ok_iff.mp performed), titles_of_mapM_perform foretold]

/-- Where a dry run fails, a run that executes its steps fails too, if it comes that far. -/
theorem performance_of_failure {before : List Blueprint.Step} {s : Blueprint.Step} {cause : Error}
    {w v : World} (foretold : FailsAt settings.dry vars before s cause w v) :
    (∃ stop, FailsAt settings.real vars before s cause w stop) ∨
    ∃ earlier t between other stop, before = earlier ++ t :: between ∧
      FailsAt settings.real vars earlier t other w stop := by
  rcases performed : (before.mapM (attempt settings.real vars)).outcome w with ⟨e | done, v'⟩
  · right
    obtain ⟨earlier, t, between, other, same, -, failed⟩ :=
      failsAt_of_mapM_attempt settings.real vars performed
    exact ⟨earlier, t, between, other, v', same, failed⟩
  · left
    have read : resolution settings.real vars s = .error cause := resolution_of_failsAt_dry foretold
    refine ⟨v', done, v', mapM_attempt_ok_iff.mp performed, ?_⟩
    rw [outcome_perform, read]

/-- A dry run touches nothing. A run that executes its steps comes to the same titles, the same skipped
steps and the same message as a dry run that succeeds, unless a step that the dry run has listed fails
once it is resolved; and it does not get past the step at which a dry run fails. -/
theorem dry_run_foretells (settings : Settings) (vars : Variables) (b : Blueprint) (w : World) :
    Detached settings.dry vars b w ∧
    let result := ((workflow settings.real vars b).outcome w).1
    match ((workflow settings.dry vars b).outcome w).1 with
    | .ok listed =>
      (∃ done, result = .ok done ∧
        done.progress.taken.map StepResult.title = listed.progress.taken.map StepResult.title ∧
        done.progress.skipped = listed.progress.skipped ∧ done.message = listed.message) ∨
      ∃ before s after step cause rs w₁ w₂, selected vars b.phases = before ++ s :: after ∧
        resolution settings vars s = .ok step ∧
        listed.progress.taken[before.length]? = some (forecast step) ∧
        (before.mapM (perform settings.real vars)).outcome w.ticked = (.ok rs, w₁) ∧
        (executeStep settings.real step).outcome w₁ = (.error cause, w₂) ∧
        result = .error (.stepFailed step.title cause)
    | .error e =>
      ∃ before s after cause, selected vars b.phases = before ++ s :: after ∧
        resolution settings vars s = .error cause ∧ e = .stepFailed (textOf vars s.title) cause ∧
        (∃ stop, FailsAt settings.dry vars before s cause w.ticked stop) ∧
        ((∃ stop, FailsAt settings.real vars before s cause w.ticked stop) ∧ result = .error e ∨
          ∃ earlier t between other stop, before = earlier ++ t :: between ∧
            FailsAt settings.real vars earlier t other w.ticked stop ∧
            result = .error (.stepFailed (textOf vars t.title) other)) := by
  refine ⟨detached_dry settings vars b w, ?_⟩
  rw [result_workflow, result_workflow]
  rcases foretold : ((selected vars b.phases).mapM (attempt settings.dry vars)).outcome w.ticked
    with ⟨e | listed, v⟩
  · obtain ⟨before, s, after, cause, steps, rfl, failed⟩ :=
      failsAt_of_mapM_attempt settings.dry vars foretold
    refine ⟨before, s, after, cause, steps, resolution_of_failsAt_dry failed, rfl, ⟨v, failed⟩, ?_⟩
    rcases performance_of_failure failed with
      ⟨stop, stopped⟩ | ⟨earlier, t, between, other, stop, rfl, stopped⟩
    · refine .inl ⟨⟨stop, stopped⟩, ?_⟩
      rw [steps, mapM_attempt_of_failsAt settings.real vars stopped after]
      rfl
    · refine .inr ⟨earlier, t, between, other, stop, rfl, stopped, ?_⟩
      have later := mapM_attempt_of_failsAt settings.real vars stopped (between ++ s :: after)
      rw [steps, List.append_assoc, List.cons_append, later]
      rfl
  · rcases performance_of_listed (mapM_attempt_ok_iff.mp foretold) with
      ⟨done, v', performed, titles⟩ |
      ⟨before, s, after, step, cause, rs, w₁, w₂, steps, read, named, began, executed, failed⟩
    · rw [performed]
      exact .inl ⟨_, rfl, titles, rfl, rfl⟩
    · refine .inr ⟨before, s, after, step, cause, rs, w₁, w₂, steps, read, named, began, executed, ?_⟩
      rw [failed]
      rfl

end Run

end Scaffold
