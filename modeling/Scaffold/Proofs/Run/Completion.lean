import Mathlib.Data.List.Basic
import Scaffold.Proofs.Run.Shown

/-! Runs that come to their end: each step of the blueprint is either taken or skipped, and what is
shown agrees with the result. -/
namespace Scaffold.Run

open Transcript

section Reading

variable (vars : Variables)

/-- What is said of the steps of a phase that are skipped, or of a phase that is skipped as a whole. -/
def skipLines (p : Blueprint.Phase) : List String :=
  if isMet vars p.condition then
    (p.steps.filter fun s => !isMet vars s.condition).map fun s =>
      s!"Skipping step: {textOf vars s.title} (condition not met)"
  else [s!"Skipping phase: {textOf vars p.title} (condition not met)"]

theorem filterMap_shown_plan {β : Type} (f : Event → Option β) (settings : Settings)
    (phases : List Blueprint.Phase) :
    ((plan vars phases).flatMap (Stage.shown settings vars)).filterMap f =
      phases.flatMap fun p =>
        ((Stage.ofPhase vars p).flatMap (Stage.shown settings vars)).filterMap f := by
  rw [plan, List.flatMap_assoc, List.filterMap_flatMap]

theorem phases_shown_ofStep (settings : Settings) (s : Blueprint.Step) :
    Transcript.phases ((Stage.ofStep vars s).shown settings vars) = [] := by
  unfold Stage.ofStep
  split
  · simp only [Stage.shown]
    cases resolution settings vars s with
    | error cause => rfl
    | ok step => cases settings.isDryRun <;> rfl
  · rfl

theorem phases_shown (settings : Settings) (phases : List Blueprint.Phase) :
    Transcript.phases ((plan vars phases).flatMap (Stage.shown settings vars)) =
      (phases.filter fun p => isMet vars p.condition).map fun p => textOf vars p.title := by
  rw [Transcript.phases, filterMap_shown_plan]
  induction phases with
  | nil => rfl
  | cons p phases ih =>
    rw [List.flatMap_cons, ih, List.filter_cons]
    cases met : isMet vars p.condition with
    | true =>
      have steps : Transcript.phases ((p.steps.map (Stage.ofStep vars)).flatMap
          (Stage.shown settings vars)) = [] := by
        rw [Transcript.phases, filterMap_shown, List.flatMap_map]
        exact List.flatMap_eq_nil_iff.mpr fun s _ => phases_shown_ofStep vars settings s
      rw [Stage.ofPhase, if_pos met, List.flatMap_cons, List.filterMap_append, if_pos rfl]
      exact congrArg (textOf vars p.title :: · ++ _) steps
    | false =>
      rw [Stage.ofPhase, if_neg (by simp [met])]
      rfl

theorem skips_shown_ofStep (settings : Settings) (s : Blueprint.Step) :
    Transcript.said ((Stage.ofStep vars s).shown settings vars) .skipped =
      if isMet vars s.condition then []
      else [s!"Skipping step: {textOf vars s.title} (condition not met)"] := by
  unfold Stage.ofStep
  split
  · simp only [Stage.shown]
    cases resolution settings vars s with
    | error cause => rfl
    | ok step => cases settings.isDryRun <;> rfl
  · rfl

theorem skips_shown (settings : Settings) (phases : List Blueprint.Phase) :
    Transcript.said ((plan vars phases).flatMap (Stage.shown settings vars)) .skipped =
      phases.flatMap (skipLines vars) := by
  rw [Transcript.said, filterMap_shown_plan]
  refine congrArg (phases.flatMap ·) (funext fun p => ?_)
  unfold skipLines
  cases met : isMet vars p.condition with
  | true =>
    have steps : Transcript.said ((p.steps.map (Stage.ofStep vars)).flatMap
          (Stage.shown settings vars)) .skipped =
        (p.steps.filter fun s => !isMet vars s.condition).map fun s =>
          s!"Skipping step: {textOf vars s.title} (condition not met)" := by
      rw [Transcript.said, filterMap_shown, List.flatMap_map]
      induction p.steps with
      | nil => rfl
      | cons s steps ih =>
        have first := skips_shown_ofStep vars settings s
        rw [List.flatMap_cons, ih, List.filter_cons]
        rw [Transcript.said] at first
        rw [first]
        cases isMet vars s.condition <;> rfl
    rw [Stage.ofPhase, if_pos met, List.flatMap_cons, List.filterMap_append, if_pos rfl]
    exact steps
  | false =>
    rw [Stage.ofPhase, if_neg (by simp [met])]
    rfl
end Reading

/-- The progress of a run accounts for each step of the blueprint once, in document order. -/
structure Accounts (vars : Variables) (b : Blueprint) (p : Progress) : Prop where
  taken : p.taken.map StepResult.title =
    ((placed b.phases).filter fun x => x.isSelected vars).map (Placed.title vars)
  skipped : p.skipped =
    ((placed b.phases).filter fun x => !x.isSelected vars).map (Placed.title vars)
  total : p.taken.length + p.skipped.length = b.stepCount

/-- What a run has shown before its summary. -/
structure Reports (settings : Settings) (vars : Variables) (b : Blueprint) (p : Progress)
    (shown : Transcript) : Prop where
  phases : shown.phases =
    (b.phases.filter fun p => isMet vars p.condition).map fun p => textOf vars p.title
  skips : shown.said .skipped = b.phases.flatMap (skipLines vars)
  steps : shown.steps = p.taken.map StepResult.title
  successes : shown.said .success =
    if settings.isDryRun then [] else p.taken.map StepResult.title
  summaries : shown.summaries = []

section Completed

variable {settings : Settings} {vars : Variables} {b : Blueprint} {w w' : World}

theorem accounts_of_gather {p : Progress}
    (done : (gather (Stage.run settings vars) (plan vars b.phases)).outcome w = (.ok p, w')) :
    Accounts vars b p := by
  obtain ⟨rs, v, performed, rfl, -⟩ := performed_of_gather settings vars done rfl
  have titles := titles_of_mapM_perform performed
  have taken : rs.map StepResult.title =
      ((placed b.phases).filter fun x => x.isSelected vars).map (Placed.title vars) := by
    rw [titles, steps_plan, selected_eq_placed, List.map_map]
    refine List.map_congr_left fun x member => ?_
    exact (title_of_selected vars (List.mem_filter.mp member).2).symm
  have skipped := skippedTitles_plan vars b.phases
  refine ⟨taken, skipped, ?_⟩
  have takenCount := congrArg List.length taken
  have skippedCount := congrArg List.length skipped
  have total := List.length_eq_length_filter_add (l := placed b.phases) fun x => x.isSelected vars
  rw [length_placed] at total
  simp only [List.length_map] at takenCount skippedCount
  dsimp only
  omega

theorem reports_of_gather {p : Progress}
    (done : (gather (Stage.run settings vars) (plan vars b.phases)).outcome w = (.ok p, w')) :
    ∃ es, w'.transcript = w.transcript ++ es ∧
      Reports settings vars b p (header vars b.about b.stepCount ++ es) := by
  obtain ⟨es, added, seen⟩ := shown_of_gather done
  obtain ⟨rs, v, performed, rfl, -⟩ := performed_of_gather settings vars done rfl
  have titles := titles_of_mapM_perform performed
  have read := resolved_of_mapM_perform performed
  refine ⟨es, added, ?_, ?_, ?_, ?_, ?_⟩
  · rw [Transcript.phases, filterMap_header_append _ _ _ _ (fun _ _ => rfl) fun _ => rfl]
    rw [← Transcript.phases, ← phases_progress, seen]
    exact phases_shown vars settings b.phases
  · rw [Transcript.said, filterMap_header_append _ _ _ _ (fun _ _ => rfl) fun _ => rfl]
    rw [← Transcript.said, ← said_progress es fun _ => rfl, seen]
    exact skips_shown vars settings b.phases
  · rw [Transcript.steps, filterMap_header_append _ _ _ _ (fun _ _ => rfl) fun _ => rfl]
    rw [← Transcript.steps, ← steps_progress, seen, titles]
    exact steps_shown read
  · rw [Transcript.said, filterMap_header_append _ _ _ _ (fun _ _ => rfl) fun _ => rfl]
    rw [← Transcript.said, ← said_progress es fun _ => rfl, seen, titles]
    exact successes_shown read
  · rw [Transcript.summaries, filterMap_header_append _ _ _ _ (fun _ _ => rfl) fun _ => rfl]
    rw [← Transcript.summaries, ← summaries_progress, seen]
    exact summaries_shown settings vars _

/-- A run that comes to its end accounts for all steps, and its last words are the summary and then the
completion message. -/
theorem workflow_completed {c : Completed}
    (completed : (workflow settings vars b).outcome w = (.ok c, w')) :
    Accounts vars b c.progress ∧ c.message = textOf vars (completionText b) ∧
      ∃ shown duration, Reports settings vars b c.progress shown ∧
        w'.transcript = w.transcript ++ shown ++
          .summary ⟨c.progress.taken.length, c.progress.skipped.length, duration⟩ ::
            textWarnings vars (completionText b) ++ [.said .success c.message] := by
  rw [outcome_workflow] at completed
  split at completed
  · cases completed
  · next p w₁ gathered =>
    cases completed
    obtain ⟨es, added, reports⟩ := reports_of_gather gathered
    refine ⟨accounts_of_gather gathered, rfl, header vars b.about b.stepCount ++ es,
      .ofMilliseconds (w₁.clock 0 - w.clock 0), reports, ?_⟩
    rw [World.transcript_append, World.transcript_ticked, added]
    simp only [World.transcript_append, World.transcript_ticked, ending, List.append_assoc]

end Completed

/-- A step and a phase are skipped because a variable is missing. -/
theorem workflow_completed_of_missing_variable :
    let b : Blueprint := { Blueprint.empty with phases := [
      ⟨"Setup", none, none,
        [plainStep "directory" "Folders" none, plainStep "directory" "Extras" (some "extras")]⟩,
      ⟨"Publish", none, some "publish", [plainStep "command" "Upload" none]⟩] }
    let w : World := ⟨⟨.empty, [], .typed []⟩, [], id, .terminal, []⟩
    let settings : Settings := ⟨".", false, fun _ here => ⟨some 0, "", [], here⟩⟩
    ∃ c w', (workflow settings ∅ b).outcome w = (.ok c, w') ∧
      c.progress = ⟨[⟨"Folders", none, none⟩], ["Extras", "Upload"]⟩ ∧ Accounts ∅ b c.progress := by
  intro b w settings
  have result : ((workflow settings ∅ b).outcome w).1 = .ok
      ⟨⟨[⟨"Folders", none, none⟩], ["Extras", "Upload"]⟩, defaultMessage⟩ := by decide +kernel
  have completed : (workflow settings ∅ b).outcome w =
      (.ok ⟨⟨[⟨"Folders", none, none⟩], ["Extras", "Upload"]⟩, defaultMessage⟩,
        ((workflow settings ∅ b).outcome w).2) := Prod.ext result rfl
  exact ⟨_, _, completed, rfl, (workflow_completed completed).1⟩

end Scaffold.Run
