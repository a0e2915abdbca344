import Scaffold.Proofs.Run.Shown

/-! Runs that fail: the failure is that of one selected step, it comes after all selected steps before
it, and what stands behind the step in the blueprint does not matter. -/
namespace Scaffold.Run

open Transcript

/-! A computation of a run does not look at what has been shown. -/

abbrev Framed {α : Type} (x : Run α) : Prop := Within (fun _ => True) (fun _ => True) x

variable (settings : Settings) (vars : Variables)

theorem framed_resolved {α : Type} (x : Resolving α) : Framed (resolved x) := by
  refine .bind (.bind (.forM fun _ => .emit trivial) fun _ => .pure _) fun result => ?_
  exact .liftM fun _ _ => trivial

theorem framed_executeStep (step : ResolvedStep) : Framed (executeStep settings step) :=
  (quiet_executeStep settings step).mono (fun _ _ => trivial) fun _ _ => trivial

theorem framed_resolveAndExecute (s : Blueprint.Step) :
    Framed (resolveAndExecute settings vars s) := by
  refine .bind (framed_resolved _) fun step => .bind (.emit trivial) fun _ => ?_
  refine .bind (framed_executeStep settings step) fun r => ?_
  cases r.description with
  | none => exact .bind (.say trivial) fun _ => .pure r
  | some description => exact .bind (.say trivial) fun _ => .pure r

theorem framed_run (stage : Stage) : Framed (stage.run settings vars) := by
  refine .bind (.forM fun _ => .emit trivial) fun _ => ?_
  cases stage.step? with
  | none => exact .pure _
  | some s =>
    exact .bind (.tryCatch (framed_resolveAndExecute settings vars s) fun _ _ => .throw trivial)
      fun _ => .pure _

theorem framed_gather (stages : List Stage) : Framed (gather (Stage.run settings vars) stages) := by
  induction stages with
  | nil =>
    rw [gather_nil]
    exact .pure _
  | cons stage stages ih =>
    rw [gather_cons]
    exact .bind (framed_run settings vars stage) fun _ => .bind ih fun _ => .pure _

variable {settings vars}

/-- What comes to be shown does not depend on what has been shown before. -/
theorem outcome_append_of_framed {α : Type} {x : Run α} (framed : Framed x) {w w' : World}
    {r : Except Error α} {before es : Transcript}
    (ran : x.outcome (w.append before) = (r, w')) (added : w'.transcript = w.transcript ++ before ++ es)
    (other : Transcript) :
    x.outcome (w.append other) = (r, { w' with transcript := w.transcript ++ other ++ es }) := by
  rw [framed.outcome_eq] at ran ⊢
  rw [World.silent_append] at ran ⊢
  generalize x.outcome w.silent = result at ran ⊢
  obtain ⟨r', v⟩ := result
  cases ran
  have more : v.transcript = es := List.append_cancel_left added
  rw [← more]
  rfl

/-! Which stage fails. -/

theorem gather_eq_error {stages : List Stage} {w w' : World} {e : Error}
    (failed : (gather (Stage.run settings vars) stages).outcome w = (.error e, w')) :
    ∃ before s after p w₁, stages = before ++ .taken s :: after ∧
      (gather (Stage.run settings vars) before).outcome w = (.ok p, w₁) ∧
      ((Stage.taken s).run settings vars).outcome w₁ = (.error e, w') := by
  induction stages generalizing w with
  | nil =>
    rw [gather_nil] at failed
    cases failed
  | cons stage stages ih =>
    rw [gather_cons] at failed
    rcases bind_eq_error failed with first | ⟨p, w₁, first, rest⟩
    · cases taken : stage.step? with
      | none =>
        rw [Stage.outcome_run_of_untaken settings vars taken] at first
        cases first
      | some s =>
        rw [Stage.eq_taken taken] at first ⊢
        exact ⟨[], s, stages, ⟨[], []⟩, w, rfl, rfl, first⟩
    · rcases bind_eq_error rest with rest | ⟨q, w₂, -, last⟩
      · obtain ⟨before, s, after, q, w₂, rfl, gathered, last⟩ := ih rest
        refine ⟨stage :: before, s, after, p.add q, w₂, rfl, ?_, last⟩
        rw [gather_cons, outcome_bind, first]
        exact (outcome_bind w₁ _ _).trans (by rw [gathered]; rfl)
      · cases last

theorem gather_append_error {before : List Stage} {s : Blueprint.Step} {p : Progress}
    {w w₁ w' : World} {e : Error} (after : List Stage)
    (done : (gather (Stage.run settings vars) before).outcome w = (.ok p, w₁))
    (failed : ((Stage.taken s).run settings vars).outcome w₁ = (.error e, w')) :
    (gather (Stage.run settings vars) (before ++ .taken s :: after)).outcome w = (.error e, w') := by
  rw [gather_append, outcome_bind, done, gather_cons]
  refine (outcome_bind w₁ _ _).trans ?_
  rw [outcome_bind, failed]

theorem perform_of_run_taken {s : Blueprint.Step} {w w' v : World} {e : Error}
    (failed : ((Stage.taken s).run settings vars).outcome w = (.error e, w'))
    (same : w.silent = v.silent) :
    ∃ cause stop, e = .stepFailed (textOf vars s.title) cause ∧
      (perform settings vars s).outcome v = (.error cause, stop) ∧ w'.silent = stop.silent := by
  obtain ⟨results, worlds⟩ := run_taken_similar settings vars s same
  rw [failed] at results worlds
  rcases attempted : (attempt settings vars s).outcome v with ⟨e' | r, stop⟩
  · rw [attempted] at results worlds
    cases results
    obtain ⟨cause, rfl, performed⟩ := attempt_error attempted
    exact ⟨cause, stop, rfl, performed, worlds⟩
  · rw [attempted] at results
    cases results

theorem outcome_workflow_eq_error {b : Blueprint} {w w' : World} {e : Error} :
    (workflow settings vars b).outcome w = (.error e, w') ↔
      (gather (Stage.run settings vars) (plan vars b.phases)).outcome
        (w.ticked.append (header vars b.about b.stepCount)) = (.error e, w') := by
  rw [outcome_workflow]
  rcases (gather (Stage.run settings vars) (plan vars b.phases)).outcome
    (w.ticked.append (header vars b.about b.stepCount)) with ⟨e' | p, v⟩
  · constructor <;> intro failed <;> cases failed <;> rfl
  · constructor <;> intro failed <;> cases failed

/-- Up to a failure no more successes are shown than those of the steps before. -/
theorem shown_of_failing_stages {stages : List Stage} {s : Blueprint.Step} {p : Progress}
    {w w₁ w' : World} {e : Error}
    (done : (gather (Stage.run settings vars) stages).outcome w = (.ok p, w₁))
    (failed : ((Stage.taken s).run settings vars).outcome w₁ = (.error e, w')) :
    ∃ es, w'.transcript = w.transcript ++ es ∧ es.summaries = [] ∧
      es.said .success = if settings.isDryRun then []
        else (stages.filterMap Stage.step?).map fun s => textOf vars s.title := by
  obtain ⟨rs, v, performed, -, -⟩ := performed_of_gather settings vars done rfl
  have read := resolved_of_mapM_perform performed
  obtain ⟨fs, addedBefore, seenBefore⟩ := shown_of_gather done
  obtain ⟨gs, addedLast, seenLast⟩ := shown_of_failure failed
  have unread {β : Type} (f : Event → Option β)
      (silent : ∀ title description, f (.step title description) = none) :
      (fs ++ gs).progress.filterMap f =
        (stages.flatMap (Stage.shown settings vars)).filterMap f := by
    rw [progress_append, seenBefore, seenLast, List.filterMap_append]
    cases (resolution settings vars s).toOption with
    | none => exact List.append_nil _
    | some step => simp [silent]
  refine ⟨fs ++ gs, by rw [addedLast, addedBefore, List.append_assoc], ?_, ?_⟩
  · rw [← summaries_progress, Transcript.summaries, unread _ fun _ _ => rfl]
    exact summaries_shown settings vars stages
  · rw [← said_progress (fs ++ gs) fun _ => rfl, Transcript.said, unread _ fun _ _ => rfl]
    exact successes_shown read

/-- A failed run fails at a selected step, as the performance of the selected steps up to it does. It
shows neither a summary nor more successes than those of the steps before, and a blueprint that has
other steps and phases after that step fails in the same way. -/
theorem workflow_failed {b : Blueprint} {w w' : World} {e : Error}
    (failed : (workflow settings vars b).outcome w = (.error e, w')) :
    ∃ (x : Position) (cause : Error) (stop : World) (es : Transcript),
      b.phases = x.phases ∧ x.isSelected vars = true ∧
      e = .stepFailed (textOf vars x.step.title) cause ∧
      (∀ title inner, cause ≠ .stepFailed title inner) ∧
      FailsAt settings vars (x.stepsTaken vars) x.step cause w.ticked stop ∧
      w'.silent = stop.silent ∧
      w'.transcript = w.transcript ++ header vars b.about b.stepCount ++ es ∧
      (header vars b.about b.stepCount ++ es).summaries = [] ∧
      (header vars b.about b.stepCount ++ es).said .success =
        (if settings.isDryRun then [] else (x.stepsTaken vars).map fun s => textOf vars s.title) ∧
      ∀ stepsAfter phasesAfter,
        let other := { b with phases := Position.phases { x with stepsAfter, phasesAfter } }
        (workflow settings vars other).outcome w = (.error e, { w' with
          transcript := w.transcript ++ header vars b.about other.stepCount ++ es }) := by
  obtain ⟨before, s, after, p, w₁, split, gathered, last⟩ :=
    gather_eq_error (outcome_workflow_eq_error.mp failed)
  obtain ⟨x, phases, chosen, rfl, rfl⟩ := plan_eq_append_taken vars split
  obtain ⟨rs, v, performed, -, reached⟩ :=
    performed_of_gather settings vars gathered (v := w.ticked) rfl
  obtain ⟨cause, stop, rfl, stopped, worlds⟩ := perform_of_run_taken last reached
  obtain ⟨es, added, summaries, successes⟩ := shown_of_failing_stages gathered last
  rw [Position.steps_stages] at performed successes
  have plain : cause.isOfStep = false :=
    (quiet_perform settings vars x.step).fails v cause (by rw [stopped])
  refine ⟨x, cause, stop, es, phases, chosen, rfl, ?_, ⟨rs, v, performed, stopped⟩, worlds, added,
    ?_, ?_, ?_⟩
  · rintro title inner rfl
    cases plain
  · rw [Transcript.summaries, filterMap_header_append _ _ _ _ (fun _ _ => rfl) fun _ => rfl]
    exact summaries
  · rw [Transcript.said, filterMap_header_append _ _ _ _ (fun _ _ => rfl) fun _ => rfl]
    exact successes
  · intro stepsAfter phasesAfter other
    -- The plan of the other blueprint begins with the same stages, so only the header tells them apart.
    obtain ⟨behind, same⟩ := Position.plan_phases vars { x with stepsAfter, phasesAfter } chosen
    have again := gather_append_error behind gathered last
    rw [outcome_workflow_eq_error, show other.phases = _ from rfl, same]
    exact outcome_append_of_framed (framed_gather settings vars _) again added
      (header vars b.about other.stepCount)

/-- A step of an unknown type fails after one that is done. -/
theorem workflow_failed_of_unknown_type :
    let b : Blueprint := { Blueprint.empty with phases := [
      ⟨"Setup", none, none, [plainStep "directory" "Folders" none, plainStep "magic" "Wish" none,
        plainStep "directory" "Never" none]⟩] }
    let w : World := ⟨⟨.empty, [], .typed []⟩, [], id, .terminal, []⟩
    let settings : Settings := ⟨".", false, fun _ here => ⟨some 0, "", [], here⟩⟩
    ∃ w', (workflow settings ∅ b).outcome w =
        (.error (.stepFailed "Wish" (.unsupportedStep "magic")), w') ∧
      ∃ x : Position, b.phases = x.phases ∧ textOf ∅ x.step.title = "Wish" := by
  intro b w settings
  have result : ((workflow settings ∅ b).outcome w).1 =
      .error (.stepFailed "Wish" (.unsupportedStep "magic")) := by decide +kernel
  have failed : (workflow settings ∅ b).outcome w =
      (.error (.stepFailed "Wish" (.unsupportedStep "magic")),
        ((workflow settings ∅ b).outcome w).2) := Prod.ext result rfl
  obtain ⟨x, _, _, _, phases, _, same, _⟩ := workflow_failed failed
  exact ⟨_, failed, x, phases, (Error.stepFailed.inj same).1.symm⟩

end Scaffold.Run
