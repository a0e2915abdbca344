import Scaffold.Proofs.Run.Perform

/-! What a run shows of its progress: the header, phases, steps and what is skipped, in the order of the
plan. Notes, warnings, questions and the output of commands may stand anywhere in between. -/
namespace Scaffold

namespace Transcript

def progress (t : Transcript) : Transcript := t.filter Event.isProgress

@[simp] theorem progress_append (t u : Transcript) : (t ++ u).progress = t.progress ++ u.progress :=
  List.filter_append t u

/-- What is read off the progress only is read off it as well as off the whole. -/
theorem filterMap_progress {β : Type} {f : Event → Option β} (t : Transcript)
    (silent : ∀ e, e.isProgress = false → f e = none) : t.progress.filterMap f = t.filterMap f := by
  induction t with
  | nil => rfl
  | cons e t ih =>
    cases visible : e.isProgress with
    | true =>
      rw [progress, List.filter_cons_of_pos visible, List.filterMap_cons, List.filterMap_cons, ← ih]
      rfl
    | false =>
      rw [progress, List.filter_cons_of_neg (by simp [visible]),
        List.filterMap_cons_none (silent e visible), ← ih]
      rfl

theorem phases_progress (t : Transcript) : t.progress.phases = t.phases := by
  refine filterMap_progress t fun e silent => ?_
  cases e with
  | phase => cases silent
  | _ => rfl

theorem steps_progress (t : Transcript) : t.progress.steps = t.steps := by
  refine filterMap_progress t fun e silent => ?_
  cases e with
  | step => cases silent
  | _ => rfl

theorem summaries_progress (t : Transcript) : t.progress.summaries = t.summaries := by
  refine filterMap_progress t fun e silent => ?_
  cases e with
  | summary => cases silent
  | _ => rfl

theorem said_progress {severity : Severity} (t : Transcript)
    (visible : ∀ text, (Event.said severity text).isProgress = true) :
    t.progress.said severity = t.said severity := by
  refine filterMap_progress t fun e silent => ?_
  cases e with
  | said other text =>
    refine if_neg fun same => ?_
    rw [same, visible text] at silent
    cases silent
  | _ => rfl

theorem progress_of_quiet {es : Transcript} (quiet : ∀ e ∈ es, e.isProgress = false) :
    es.progress = [] := by
  refine List.filter_eq_nil_iff.mpr fun e member => ?_
  simp [quiet e member]

end Transcript

namespace Run

open Transcript

variable (settings : Settings) (vars : Variables)

theorem IsLog.filterMap_eq_nil {β : Type} {t : Transcript} (log : IsLog t) {f : Event → Option β}
    (unread : ∀ warning, f (.logged warning) = none) : t.filterMap f = [] := by
  refine List.filterMap_eq_nil_iff.mpr fun e member => ?_
  obtain ⟨warning, rfl⟩ := log e member
  exact unread warning

theorem IsLog.progress_eq_nil {t : Transcript} (log : IsLog t) : t.progress = [] := by
  refine progress_of_quiet fun e member => ?_
  obtain ⟨warning, rfl⟩ := log e member
  rfl

/-- A reading that concerns neither the header nor warnings takes nothing from what comes first. -/
theorem filterMap_header_append {β : Type} {f : Event → Option β} (about : Blueprint.Metadata)
    (count : Nat) (t : Transcript) (unread : ∀ name version, f (.header name version count) = none)
    (logged : ∀ warning, f (.logged warning) = none) :
    (header vars about count ++ t).filterMap f = t.filterMap f := by
  rw [List.filterMap_append]
  unfold header
  cases about.name with
  | none => rfl
  | some name =>
    rw [List.filterMap_append, (IsLog.ofText vars name).filterMap_eq_nil logged]
    simp [unread]

namespace Stage

/-- The progress shown at a stage that the run comes through. -/
def shown : Stage → Transcript
  | entered title _ description => [.phase (textOf vars title) (description.map (textOf vars))]
  | passed p => [.said .skipped s!"Skipping phase: {textOf vars p.title} (condition not met)"]
  | skipped s => [.said .skipped s!"Skipping step: {textOf vars s.title} (condition not met)"]
  | taken s =>
    match resolution settings vars s with
    | .ok step => [.step step.title step.description,
        if settings.isDryRun then .said .message s!"  {step.action.describe}"
        else .said .success step.title]
    | .error _ => []

theorem progress_announced {stage : Stage} (untaken : stage.step? = none) :
    (stage.announced vars).progress = stage.shown settings vars := by
  rw [announced, progress_append, (isLog_notes vars stage).progress_eq_nil]
  cases stage with
  | taken s => cases untaken
  | _ => rfl

end Stage

variable {settings vars}

theorem closing_of_executeStep {step : ResolvedStep} {r : StepResult} {w w' : World}
    (done : (executeStep settings step).outcome w = (.ok r, w')) :
    closing step r =
      if settings.isDryRun then .said .message s!"  {step.action.describe}"
      else .said .success step.title := by
  obtain ⟨-, described⟩ := executeStep_ok done
  rw [closing, described]
  cases settings.isDryRun <;> rfl

theorem Quiet.shown {α : Type} {x : Run α} (quiet : Quiet x) {w w' : World} {r : Except Error α}
    (ran : x.outcome w = (r, w')) : ∃ es, w'.transcript = w.transcript ++ es ∧ es.progress = [] := by
  obtain ⟨es, added, silent⟩ := quiet.adds w
  rw [ran] at added
  exact ⟨es, added, progress_of_quiet silent⟩

theorem progress_started (s : Blueprint.Step) :
    ((Stage.taken s).announced vars ++ resolutionWarnings settings vars s).progress = [] := by
  rw [Stage.announced, progress_append, progress_append, (Stage.isLog_notes vars _).progress_eq_nil,
    resolutionWarnings, (IsLog.ofWarnings _).progress_eq_nil]
  rfl

/-- A step that fails shows no more than its own announcement, once it is resolved. -/
theorem shown_of_failure {s : Blueprint.Step} {w w' : World} {e : Error}
    (failed : ((Stage.taken s).run settings vars).outcome w = (.error e, w')) :
    ∃ es, w'.transcript = w.transcript ++ es ∧
      es.progress = (resolution settings vars s).toOption.toList.map fun step =>
        .step step.title step.description := by
  rw [outcome_run_taken] at failed
  cases read : resolution settings vars s with
  | error cause =>
    simp only [read] at failed
    cases failed
    exact ⟨_, rfl, progress_started s⟩
  | ok step =>
    simp only [read] at failed
    split at failed
    · next cause w₁ executed =>
      cases failed
      obtain ⟨es, added, quiet⟩ := (quiet_executeStep settings step).shown executed
      refine ⟨(Stage.taken s).announced vars ++ resolutionWarnings settings vars s ++
        [.step step.title step.description] ++ es, by simpa using added, ?_⟩
      rw [progress_append, progress_append, progress_started, quiet]
      rfl
    · cases failed

theorem shown_of_run {stage : Stage} {w w' : World} {p : Progress}
    (done : (stage.run settings vars).outcome w = (.ok p, w')) :
    ∃ es, w'.transcript = w.transcript ++ es ∧ es.progress = stage.shown settings vars := by
  cases taken : stage.step? with
  | none =>
    rw [Stage.outcome_run_of_untaken settings vars taken] at done
    cases done
    exact ⟨stage.announced vars, rfl, Stage.progress_announced settings vars taken⟩
  | some s =>
    rw [Stage.eq_taken taken] at done ⊢
    rw [outcome_run_taken] at done
    cases read : resolution settings vars s with
    | error cause => simp [read] at done
    | ok step =>
      simp only [read] at done
      split at done
      · cases done
      · next r w₁ executed =>
        cases done
        obtain ⟨es, added, quiet⟩ := (quiet_executeStep settings step).shown executed
        refine ⟨(Stage.taken s).announced vars ++ resolutionWarnings settings vars s ++
          [.step step.title step.description] ++ es ++ [closing step r], by simp [added], ?_⟩
        rw [progress_append, progress_append, progress_append, progress_started, quiet,
          closing_of_executeStep executed, Stage.shown, read]
        cases settings.isDryRun <;> rfl

/-- The progress shown by a run through stages is that of one stage after another. -/
theorem shown_of_gather {stages : List Stage} {w w' : World} {p : Progress}
    (done : (gather (Stage.run settings vars) stages).outcome w = (.ok p, w')) :
    ∃ es, w'.transcript = w.transcript ++ es ∧
      es.progress = stages.flatMap (Stage.shown settings vars) := by
  induction stages generalizing w p with
  | nil =>
    rw [gather_nil] at done
    cases done
    exact ⟨[], by simp, rfl⟩
  | cons stage stages ih =>
    rw [gather_cons] at done
    obtain ⟨first, w₁, ran, done⟩ := bind_eq_ok done
    obtain ⟨rest, w₂, gathered, done⟩ := bind_eq_ok done
    cases done
    obtain ⟨es, added, seen⟩ := shown_of_run ran
    obtain ⟨fs, more, later⟩ := ih gathered
    refine ⟨es ++ fs, by rw [more, added, List.append_assoc], ?_⟩
    rw [progress_append, seen, later, List.flatMap_cons]

/-! Readings of the progress shown at stages. -/

section Reading

variable {β : Type} (settings vars) (f : Event → Option β)

theorem filterMap_shown (stages : List Stage) :
    (stages.flatMap (Stage.shown settings vars)).filterMap f =
      stages.flatMap fun stage => (stage.shown settings vars).filterMap f :=
  List.filterMap_flatMap

theorem summaries_shown (stages : List Stage) :
    Transcript.summaries (stages.flatMap (Stage.shown settings vars)) = [] := by
  rw [Transcript.summaries, filterMap_shown]
  refine List.flatMap_eq_nil_iff.mpr fun stage _ => ?_
  cases stage with
  | taken s =>
    simp only [Stage.shown]
    cases resolution settings vars s with
    | error cause => rfl
    | ok step => cases settings.isDryRun <;> rfl
  | _ => rfl

variable {settings vars f}

/-- A reading that takes one item from each selected step takes them in their order. -/
theorem filterMap_shown_taken {stages : List Stage} {item : Blueprint.Step → List β}
    (untaken : ∀ stage : Stage, stage.step? = none → (stage.shown settings vars).filterMap f = [])
    (each : ∀ s ∈ stages.filterMap Stage.step?,
      ((Stage.taken s).shown settings vars).filterMap f = item s) :
    (stages.flatMap (Stage.shown settings vars)).filterMap f =
      (stages.filterMap Stage.step?).flatMap item := by
  induction stages with
  | nil => rfl
  | cons stage stages ih =>
    rw [List.flatMap_cons, List.filterMap_append]
    cases taken : stage.step? with
    | none =>
      rw [List.filterMap_cons_none taken] at each ⊢
      rw [untaken stage taken, ih each, List.nil_append]
    | some s =>
      rw [List.filterMap_cons_some taken] at each ⊢
      have later := ih fun t member => each t (List.mem_cons_of_mem s member)
      rw [Stage.eq_taken taken, each s List.mem_cons_self, later, List.flatMap_cons]

variable {stages : List Stage}
  (read : ∀ s ∈ stages.filterMap Stage.step?, ∃ step, resolution settings vars s = .ok step)
include read

theorem steps_shown : Transcript.steps (stages.flatMap (Stage.shown settings vars)) =
    (stages.filterMap Stage.step?).map fun s => textOf vars s.title := by
  rw [List.map_eq_flatMap]
  refine filterMap_shown_taken ?_ ?_
  · intro stage untaken
    cases stage with
    | taken s => cases untaken
    | _ => rfl
  · intro s member
    obtain ⟨step, resolved⟩ := read s member
    simp only [Stage.shown, resolved, ← title_of_resolution resolved]
    cases settings.isDryRun <;> rfl

/-- Only a run that executes its steps reports their success. -/
theorem successes_shown :
    Transcript.said (stages.flatMap (Stage.shown settings vars)) .success =
      if settings.isDryRun then []
      else (stages.filterMap Stage.step?).map fun s => textOf vars s.title := by
  have items : (if settings.isDryRun then []
      else (stages.filterMap Stage.step?).map fun s => textOf vars s.title) =
        (stages.filterMap Stage.step?).flatMap fun s =>
          if settings.isDryRun then [] else [textOf vars s.title] := by
    cases settings.isDryRun with
    | true => simp
    | false => exact List.map_eq_flatMap
  rw [items]
  refine filterMap_shown_taken ?_ ?_
  · intro stage untaken
    cases stage with
    | taken s => cases untaken
    | _ => rfl
  · intro s member
    obtain ⟨step, resolved⟩ := read s member
    simp only [Stage.shown, resolved, ← title_of_resolution resolved]
    cases settings.isDryRun <;> rfl

end Reading

end Run

end Scaffold
