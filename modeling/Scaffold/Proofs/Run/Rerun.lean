import Scaffold.Proofs.Files.Repetition
import Scaffold.Proofs.Run.FileActions
import Scaffold.Proofs.Run.Perform

/-! Running a blueprint of directories and files once more. Each step finds what it has made itself and
all that was made after it, and comes to what it has come to before. -/
namespace Scaffold

open Files FileTree

namespace Run

variable {α : Type}

/-- Once a computation has been done between two worlds, it is done again from any world that has grown
out of the second one and is fair to it. -/
structure Again (x : Run α) (fair : World → Prop) (w w' : World) : Prop where
  here : w'.directory = w.directory
  keeps : Keeps w.files w'.files
  repeats : ∀ v : World, v.directory = w.directory → Keeps w'.files v.files → fair v →
    ∃ a v', x.outcome v = (.ok a, v') ∧ v'.directory = v.directory ∧
      Repeats w.files w'.files v.files v'.files

variable {w w' : World}

theorem outcome_onFiles_ok {failure : SystemFault → Error} {action : Location → Action Unit}
    (done : (onFiles failure action).outcome w = (.ok (), w')) :
    ∃ u, (action w.directory).run w.files = (.ok (), u) ∧ w' = w.withFiles u := by
  rcases ran : (action w.directory).run w.files with ⟨f | _, u⟩
  · rw [outcome_onFiles_of_run ran] at done
    cases done
  · rw [outcome_onFiles_of_run ran] at done
    cases done
    exact ⟨u, rfl, rfl⟩

/-! Directories. -/

/-- Makes a directory with its ancestors, or says that it is there. -/
def makeListed (path : String) : Run Unit := do
  if Files.isDirectory (← files) (← directory) path then
    say .note s!"Directory {path} already exists"
  else onFiles (.filesystem path) fun here => Files.makeDirectories here path

theorem outcome_makeListed (path : String) (w : World) : (makeListed path).outcome w =
    if Files.isDirectory w.files w.directory path then
      (.ok (), w.append [.said .note s!"Directory {path} already exists"])
    else (onFiles (.filesystem path) fun here => Files.makeDirectories here path).outcome w := by
  rw [makeListed, outcome_files_bind, outcome_directory_bind]
  split <;> rfl

theorem makeListed_again {path : String} (done : (makeListed path).outcome w = (.ok (), w')) :
    w'.directory = w.directory ∧ Adds w.files w'.files ∧
      ∀ v : World, v.directory = w.directory → Keeps w'.files v.files →
        ∃ es, (makeListed path).outcome v = (.ok (), v.append es) := by
  rw [outcome_makeListed] at done
  split at done
  · next inside =>
    cases done
    refine ⟨rfl, .refl _, fun v here keeps => ?_⟩
    rw [outcome_makeListed, here, if_pos (isDirectory_mono keeps inside)]
    exact ⟨_, rfl⟩
  · obtain ⟨u, made, rfl⟩ := outcome_onFiles_ok done
    have adds := adds_makeDirectories w.directory path w.files
    rw [made] at adds
    refine ⟨rfl, adds, fun v here keeps => ?_⟩
    rw [outcome_makeListed]
    split
    · exact ⟨_, rfl⟩
    · rw [outcome_onFiles_of_run (makeDirectories_again (here ▸ made) keeps)]
      exact ⟨[], by rw [World.append_nil]; rfl⟩

theorem makeDirectories_again {paths : List String}
    (done : (makeDirectories paths).outcome w = (.ok (), w')) :
    w'.directory = w.directory ∧ Adds w.files w'.files ∧
      ∀ v : World, v.directory = w.directory → Keeps w'.files v.files →
        ∃ es, (makeDirectories paths).outcome v = (.ok (), v.append es) := by
  induction paths generalizing w with
  | nil =>
    cases done
    exact ⟨rfl, .refl _, fun v _ _ => ⟨[], by rw [World.append_nil]; rfl⟩⟩
  | cons path paths ih =>
    have cons (v : World) : (makeDirectories (path :: paths)).outcome v =
        (makeListed path >>= fun _ => makeDirectories paths).outcome v := rfl
    rw [cons] at done
    obtain ⟨_, w₁, first, later⟩ := bind_eq_ok done
    obtain ⟨here₁, adds₁, again₁⟩ := makeListed_again first
    obtain ⟨here₂, adds₂, again₂⟩ := ih later
    refine ⟨here₂.trans here₁, adds₁.trans adds₂, fun v here keeps => ?_⟩
    obtain ⟨es, listed⟩ := again₁ v here (adds₂.toKeeps.trans keeps)
    obtain ⟨fs, others⟩ := again₂ (v.append es) (here.trans here₁.symm) keeps
    refine ⟨es ++ fs, ?_⟩
    rw [cons, outcome_bind, listed]
    exact others.trans (by rw [World.append_append])

end Run

namespace FileAction

open Run

variable {w w' : World} {path content : String}

theorem ensureParent_again (done : (ensureParent path).outcome w = (.ok (), w')) :
    ∃ g, w' = w.withFiles g ∧ Adds w.files g ∧
      ∀ v : World, v.directory = w.directory → Keeps g v.files →
        (ensureParent path).outcome v = (.ok (), v) := by
  unfold ensureParent at done ⊢
  split at done
  · next parent found =>
    split at done
    · next filled =>
      obtain ⟨g, made, rfl⟩ := outcome_onFiles_ok done
      have adds := adds_makeDirectories w.directory parent w.files
      rw [made] at adds
      refine ⟨g, rfl, adds, fun v here keeps => ?_⟩
      rw [if_pos filled, outcome_onFiles_of_run (makeDirectories_again (here ▸ made) keeps)]
      rfl
    · next empty =>
      cases done
      exact ⟨w.files, rfl, .refl _, fun v _ _ => by rw [if_neg empty]; rfl⟩
  · cases done
    exact ⟨w.files, rfl, .refl _, fun v _ _ => rfl⟩

theorem writeText_ok (done : (writeText path content).outcome w = (.ok (), w')) :
    ∃ q, writable w.files w.directory path = .ok q ∧
      w' = w.withFiles (w.files.putBytes q content.toUTF8) := by
  obtain ⟨u, wrote, rfl⟩ := outcome_onFiles_ok done
  obtain ⟨q, writes, rfl⟩ := writable_of_write wrote
  exact ⟨q, writes, rfl⟩

theorem outcome_writeText {q : Location} (writes : writable w.files w.directory path = .ok q) :
    (writeText path content).outcome w = (.ok (), w.withFiles (w.files.putBytes q content.toUTF8)) := by
  rw [writeText, outcome_onFiles_of_run (run_write writes)]
  rfl

/-! Creating. -/

/-- If there is a file in the place of the one to be created, this is chosen to happen to it. -/
def Decided (choice : ConflictChoice) (path : String) (w : World) : Prop :=
  ∀ w₁, (ensureParent path).outcome w = (.ok (), w₁) → has w₁.files w₁.directory path = true →
    chosen w₁.respondent path = .ok choice

/-- What creating a file comes to once the directory that it is in is there. -/
theorem createFile_after {w₁ : World} (made : (ensureParent path).outcome w = (.ok (), w₁)) :
    (createFile path content).outcome w =
      if has w₁.files w₁.directory path then
        (askConflict path >>= fun choice => match choice with
          | .skip => say .note s!"Kept existing {path}"
          | .backup => backUp path >>= fun _ => writeText path content
          | .overwrite => writeText path content).outcome w₁
      else (writeText path content).outcome w₁ := by
  rw [createFile, outcome_bind, made]
  dsimp only
  rw [outcome_files_bind, outcome_directory_bind]
  split <;> rfl

theorem createFile_ok {choice : ConflictChoice} (unsaved : choice ≠ .backup)
    (decided : Decided choice path w) (done : (createFile path content).outcome w = (.ok (), w')) :
    ∃ g, (ensureParent path).outcome w = (.ok (), w.withFiles g) ∧ Adds w.files g ∧
      w'.directory = w.directory ∧
      ((has g w.directory path = true ∧ choice = .skip ∧ w'.files = g) ∨
        ∃ q, writable g w.directory path = .ok q ∧ w'.files = g.putBytes q content.toUTF8 ∧
          (has g w.directory path = true → choice = .overwrite)) := by
  obtain ⟨_, w₁, made, -⟩ := bind_eq_ok done
  obtain ⟨g, rfl, adds, -⟩ := ensureParent_again made
  refine ⟨g, made, adds, ?_⟩
  rw [createFile_after made] at done
  split at done
  · next present =>
    obtain ⟨v, files, here, -, ⟨e, failed, -⟩ | ⟨choice', chose, done⟩⟩ := askConflict_bind_cases done
    · cases failed
    rw [decided _ made present] at chose
    cases chose
    cases choice with
    | skip =>
      cases done
      exact ⟨here, .inl ⟨present, rfl, files⟩⟩
    | backup => exact absurd rfl unsaved
    | overwrite =>
      obtain ⟨q, writes, rfl⟩ := writeText_ok done
      rw [files, here] at writes
      refine ⟨here, .inr ⟨q, writes, ?_, fun _ => rfl⟩⟩
      exact congrArg (FileTree.putBytes · q content.toUTF8) files
  · next absent =>
    obtain ⟨q, writes, rfl⟩ := writeText_ok done
    exact ⟨rfl, .inr ⟨q, writes, rfl, fun present => absurd present absent⟩⟩

/-- Asking about a file comes to the choice, and to a world with the same files. -/
theorem exists_askConflict {choice : ConflictChoice} (chose : chosen w.respondent path = .ok choice) :
    ∃ w₁ : World, (askConflict path).outcome w = (.ok choice, w₁) ∧
      w₁.files = w.files ∧ w₁.directory = w.directory := by
  refine ⟨_, (outcome_askConflict w path).trans (by rw [chose]), ?_, ?_⟩ <;> rw [outcome_ask]

theorem createFile_kept (content : String) (made : (ensureParent path).outcome w = (.ok (), w))
    (decided : Decided .skip path w) (present : has w.files w.directory path = true) :
    ∃ w', (createFile path content).outcome w = (.ok (), w') ∧ w'.directory = w.directory ∧
      w'.files = w.files := by
  obtain ⟨w₁, asked, files, here⟩ := exists_askConflict (decided w made present)
  refine ⟨w₁.append [.said .note s!"Kept existing {path}"], ?_, here, files⟩
  rw [createFile_after made, if_pos present, outcome_bind, asked]
  rfl

theorem createFile_written (content : String) {choice : ConflictChoice} {q : Location}
    (made : (ensureParent path).outcome w = (.ok (), w)) (decided : Decided choice path w)
    (writes : writable w.files w.directory path = .ok q)
    (overwrites : has w.files w.directory path = true → choice = .overwrite) :
    ∃ w', (createFile path content).outcome w = (.ok (), w') ∧ w'.directory = w.directory ∧
      w'.files = w.files.putBytes q content.toUTF8 := by
  by_cases present : has w.files w.directory path = true
  · obtain ⟨w₁, asked, files, here⟩ := exists_askConflict (decided w made present)
    have wrote : (writeText path content).outcome w₁ = _ :=
      outcome_writeText (by rw [files, here]; exact writes)
    refine ⟨w₁.withFiles (w₁.files.putBytes q content.toUTF8), ?_, here,
      congrArg (FileTree.putBytes · q content.toUTF8) files⟩
    rw [createFile_after made, if_pos present, outcome_bind, asked, overwrites present]
    exact wrote
  · refine ⟨w.withFiles (w.files.putBytes q content.toUTF8), ?_, rfl, rfl⟩
    rw [createFile_after made, if_neg present, outcome_writeText writes]

/-- A file is created again, or it is kept again, as long as the choice stays the same. -/
theorem createFile_again {choice : ConflictChoice} (unsaved : choice ≠ .backup)
    (decided : Decided choice path w) (done : (createFile path content).outcome w = (.ok (), w')) :
    Again (createFile path content) (Decided choice path) w w' := by
  obtain ⟨g, made, adds, here, change⟩ := createFile_ok unsaved decided done
  obtain ⟨g', same, -, remade⟩ := ensureParent_again made
  obtain rfl : g = g' := congrArg World.files same
  rcases change with ⟨present, rfl, files⟩ | ⟨q, writes, files, overwrites⟩
  · refine ⟨here, files ▸ adds.toKeeps, fun v here' keeps decided' => ?_⟩
    rw [files] at keeps ⊢
    obtain ⟨v', again, there, same⟩ := createFile_kept content (remade v here' keeps)
      decided' (here' ▸ has_mono keeps present)
    exact ⟨(), v', again, there, same ▸ .of_adds adds v.files⟩
  · obtain ⟨_, -, way⟩ := writable_eq_ok_iff_writes.mp writes
    have kept : Keeps g (g.putBytes q content.toUTF8) := .putBytes way.place_ne_nil way.free _
    refine ⟨here, files ▸ adds.toKeeps.trans kept, fun v here' keeps decided' => ?_⟩
    rw [files] at keeps ⊢
    have remade' := remade v here' (kept.trans keeps)
    obtain ⟨writes', repeats⟩ := write_again writes keeps
    by_cases overwrites' : has v.files v.directory path = true → choice = .overwrite
    · obtain ⟨v', again, there, same⟩ := createFile_written content remade' decided'
        (here' ▸ writes') overwrites'
      exact ⟨(), v', again, there, same ▸ (Repeats.of_adds adds v.files).trans repeats⟩
    · -- What is kept now has been written the first time, and nothing was there before.
      obtain ⟨present, other⟩ := Classical.not_imp.mp overwrites'
      have skip : choice = .skip := by
        cases choice with
        | skip => rfl
        | backup => exact absurd rfl unsaved
        | overwrite => exact absurd rfl other
      subst skip
      obtain ⟨v', again, there, same⟩ := createFile_kept content remade' decided' present
      have absent : ¬ has g w.directory path = true := fun present => nomatch overwrites present
      have repeats : Repeats g (g.putBytes q content.toUTF8) v.files v.files := repeats_of_absent writes absent
      exact ⟨(), v', again, there, same ▸ (Repeats.of_adds adds v.files).trans repeats⟩

end FileAction

namespace Run

variable {α β : Type}

theorem Again.map {x : Run α} {fair : World → Prop} {w w' : World} (again : Again x fair w w')
    (f : α → β) : Again (f <$> x) fair w w' := by
  refine ⟨again.here, again.keeps, fun v here keeps fairly => ?_⟩
  obtain ⟨a, v', done, there, repeats⟩ := again.repeats v here keeps fairly
  refine ⟨f a, v', ?_, there, repeats⟩
  rw [map_eq_pure_bind, outcome_bind, done]
  rfl

theorem map_eq_ok {x : Run α} {f : α → β} {w w' : World} {b : β}
    (done : (f <$> x).outcome w = (.ok b, w')) : ∃ a, x.outcome w = (.ok a, w') := by
  rw [map_eq_pure_bind] at done
  obtain ⟨a, w₁, first, last⟩ := bind_eq_ok done
  cases last
  exact ⟨a, first⟩

variable (settings : Settings) (vars : Variables) (choice : ConflictChoice)

/-! Steps. -/

/-- The conflict that a step meets, if it meets one, is decided in this way. -/
def Settled (s : Blueprint.Step) (w : World) : Prop :=
  settings.isDryRun = false → ∀ step path content, resolution settings vars s = .ok step →
    step.action = .file (.create path content) → FileAction.Decided choice path w

/-- All conflicts that steps meet, as they are performed one after another, are decided in this way. -/
def Unanimous : List Blueprint.Step → World → Prop
  | [], _ => True
  | s :: steps, w => Settled settings vars choice s w ∧
      ∀ r w', (perform settings vars s).outcome w = (.ok r, w') → Unanimous steps w'

variable {settings vars choice} {w w' : World}

/-- A step without a check, whose action has no exit code, is taken by doing the action. -/
theorem executeStep_eq_map {step : ResolvedStep} {x : Run Unit} (real : settings.isDryRun = false)
    (unchecked : step.check = none)
    (acts : takeAction settings.shell step.action = x >>= fun _ => pure none) :
    executeStep settings step = (fun _ => ⟨step.title, none, none⟩) <$> x := by
  simp only [executeStep, real, unchecked, acts, Bool.false_eq_true, if_false, bind_assoc, pure_bind,
    map_eq_pure_bind]
  rfl

theorem perform_again {s : Blueprint.Step} {r : StepResult} (unsaved : choice ≠ .backup)
    (making : s.IsMaking) (settled : Settled settings vars choice s w)
    (done : (perform settings vars s).outcome w = (.ok r, w')) :
    Again (perform settings vars s) (Settled settings vars choice s) w w' := by
  obtain ⟨step, read, executed⟩ := perform_ok done
  have same : perform settings vars s = executeStep settings step :=
    ext fun v => by rw [outcome_perform, read]
  rw [same]
  cases dry : settings.isDryRun with
  | true =>
    have idle (v : World) :
        (executeStep settings step).outcome v = (.ok ⟨step.title, none, some step.action.describe⟩, v) := by
      rw [executeStep, dry]
      rfl
    rw [idle] at executed
    cases executed
    exact ⟨rfl, .refl _, fun v _ _ _ => ⟨_, v, idle v, rfl, .refl _ _⟩⟩
  | false =>
    obtain ⟨free, ⟨paths, action⟩ | ⟨path, content, action⟩⟩ :=
      ResolvedStep.isMaking_of_ofStep read making
    · rw [executeStep_eq_map dry free (by rw [action]; rfl)] at executed ⊢
      obtain ⟨_, executed⟩ := map_eq_ok executed
      obtain ⟨here, adds, again⟩ := makeDirectories_again executed
      refine Again.map ⟨here, adds.toKeeps, fun v here' keeps _ => ?_⟩ _
      obtain ⟨es, done⟩ := again v here' keeps
      exact ⟨(), v.append es, done, rfl, .of_adds adds v.files⟩
    · rw [executeStep_eq_map dry free (by rw [action]; rfl)] at executed ⊢
      obtain ⟨_, executed⟩ := map_eq_ok executed
      obtain ⟨here, keeps, again⟩ :=
        FileAction.createFile_again unsaved (settled dry step path content read action) executed
      exact Again.map ⟨here, keeps, fun v here' keeps' fairly =>
        again v here' keeps' (fairly dry step path content read action)⟩ _

/-- Steps that are performed one after another are performed again one after another. -/
theorem mapM_perform_again {steps : List Blueprint.Step} {rs : List StepResult}
    (unsaved : choice ≠ .backup)
    (making : ∀ s ∈ steps, s.IsMaking)
    (unanimous : Unanimous settings vars choice steps w)
    (done : (steps.mapM (perform settings vars)).outcome w = (.ok rs, w')) :
    Again (steps.mapM (perform settings vars)) (Unanimous settings vars choice steps) w w' := by
  induction steps generalizing w rs with
  | nil =>
    cases done
    exact ⟨rfl, .refl _, fun v _ _ _ => ⟨[], v, rfl, rfl, .refl _ _⟩⟩
  | cons s steps ih =>
    obtain ⟨r, rest, w₁, rfl, first, later⟩ := mapM_cons_eq_ok done
    have one := perform_again unsaved (making s List.mem_cons_self) unanimous.1 first
    have others := ih (fun s member => making s (List.mem_cons_of_mem _ member))
      (unanimous.2 r w₁ first) later
    refine ⟨others.here.trans one.here, one.keeps.trans others.keeps, fun v here keeps fairly => ?_⟩
    obtain ⟨r', v₁, again, there, repeats⟩ := one.repeats v here (others.keeps.trans keeps) fairly.1
    obtain ⟨rs', v', again', there', repeats'⟩ := others.repeats v₁
      (there.trans (here.trans one.here.symm)) (keeps.trans repeats.second) (fairly.2 r' v₁ again)
    refine ⟨r' :: rs', v', ?_, there'.trans there, repeats.trans repeats'⟩
    rw [mapM_cons_of_ok steps again, again']
    rfl

/-! Respondents that always decide alike. -/

/-- Every conflict is decided in one way, and the next one will be. -/
def Steady (choice : ConflictChoice) (r : Respondent) : Prop :=
  ∀ path, FileAction.chosen r path = .ok choice ∧ (r.ask (ConflictChoice.question path)).2 = r

/-- A computation leaves a steady respondent as it is. -/
def Retains (choice : ConflictChoice) (x : Run α) : Prop :=
  ∀ w : World, Steady choice w.respondent → (x.outcome w).2.respondent = w.respondent

namespace Retains

theorem bind {x : Run α} {f : α → Run β} (first : Retains choice x)
    (next : ∀ a, Retains choice (f a)) : Retains choice (x >>= f) := by
  intro w steady
  have before := first w steady
  rw [outcome_bind]
  generalize x.outcome w = result at before
  rcases result with ⟨e | a, v⟩
  · exact before
  · exact (next a v (before ▸ steady)).trans before

theorem ite {c : Prop} [Decidable c] {x y : Run α} (first : Retains choice x) (second : Retains choice y) :
    Retains choice (if c then x else y) := by
  split
  · exact first
  · exact second

theorem makeDirectories (paths : List String) : Retains choice (Run.makeDirectories paths) := by
  have listed (path : String) : Retains choice (makeListed path) := by
    intro w _
    rw [outcome_makeListed]
    split <;> rfl
  induction paths with
  | nil => exact fun _ _ => rfl
  | cons path paths ih => exact (listed path).bind fun _ => ih

theorem ensureParent (path : String) : Retains choice (FileAction.ensureParent path) := by
  intro w _
  unfold FileAction.ensureParent
  split
  · split <;> rfl
  · rfl

theorem createFile (path content : String) : Retains choice (FileAction.createFile path content) := by
  have writes : Retains choice (FileAction.writeText path content) := fun _ _ => rfl
  refine .bind (.ensureParent path) fun _ => .bind (fun _ _ => rfl) fun t => ?_
  refine .bind (fun _ _ => rfl) fun here => .ite (.bind (fun w steady => ?_) fun chosen => ?_) writes
  · rw [FileAction.outcome_askConflict, outcome_ask]
    exact (steady path).2
  · cases chosen with
    | skip => exact fun _ _ => rfl
    | backup =>
      have saves : Retains choice (FileAction.backUp path) :=
        .bind (fun _ _ => rfl) fun _ => .bind (fun _ _ => rfl) fun _ _ _ => rfl
      exact saves.bind fun _ => writes
    | overwrite => exact writes

theorem perform (settings : Settings) (vars : Variables) {s : Blueprint.Step} (making : s.IsMaking) :
    Retains choice (Run.perform settings vars s) := by
  intro w steady
  rw [outcome_perform]
  cases read : resolution settings vars s with
  | error e => rfl
  | ok step =>
    dsimp only
    cases dry : settings.isDryRun with
    | true =>
      rw [executeStep, dry]
      rfl
    | false =>
      obtain ⟨free, ⟨paths, action⟩ | ⟨path, content, action⟩⟩ :=
        ResolvedStep.isMaking_of_ofStep read making
      · rw [executeStep_eq_map dry free (by rw [action]; rfl), map_eq_pure_bind]
        exact (Retains.makeDirectories paths).bind (fun _ _ _ => rfl) w steady
      · rw [executeStep_eq_map dry free (by rw [action]; rfl), map_eq_pure_bind]
        exact (Retains.createFile path content).bind (fun _ _ _ => rfl) w steady

end Retains

theorem unanimous_of_steady {steps : List Blueprint.Step}
    (making : ∀ s ∈ steps, s.IsMaking)
    (steady : Steady choice w.respondent) : Unanimous settings vars choice steps w := by
  induction steps generalizing w with
  | nil => trivial
  | cons s steps ih =>
    refine ⟨fun _ _ path _ _ _ w₁ made _ => ?_, fun r w' done => ?_⟩
    · obtain ⟨g, rfl, -⟩ := FileAction.ensureParent_again made
      exact (steady path).1
    · have same := Retains.perform settings vars (making s List.mem_cons_self) w steady
      rw [done] at same
      exact ih (fun s member => making s (List.mem_cons_of_mem _ member)) (same ▸ steady)

theorem steady_always {text : String} (known : ConflictChoice.ofText text = .ok choice) :
    Steady choice (FileAction.always text) := by
  refine fun path => ⟨(FileAction.chosen_always text path).trans known, ?_⟩
  simp only [FileAction.always, Respondent.ask, Script.take, ConflictChoice.question,
    Std.ExtTreeMap.getElem?_empty]

/-! Whole runs. -/

/-- What holds of all steps of a blueprint holds of the selected ones. -/
theorem forall_selected (vars : Variables) {phases : List Blueprint.Phase} {P : Blueprint.Step → Prop}
    (all : ∀ p ∈ phases, ∀ s ∈ p.steps, P s) : ∀ s ∈ selected vars phases, P s := by
  intro s member
  obtain ⟨p, entered, inside⟩ := List.mem_flatMap.mp member
  exact all p (List.mem_filter.mp entered).1 s (List.mem_filter.mp inside).1

theorem performed_of_workflow {b : Blueprint} {c : Completed}
    (done : (workflow settings vars b).outcome w = (.ok c, w')) :
    ∃ rs v, ((selected vars b.phases).mapM (perform settings vars)).outcome w.ticked = (.ok rs, v) ∧
      w'.files = v.files := by
  obtain ⟨results, worlds⟩ := workflow_similar settings vars b w
  rw [done] at results worlds
  rcases performed : ((selected vars b.phases).mapM (attempt settings vars)).outcome w.ticked
    with ⟨e | rs, v⟩
  · rw [performed] at results
    cases results
  · rw [performed] at worlds
    have files : w'.silent.files = v.ticked.silent.files := congrArg World.files worlds
    exact ⟨rs, v, mapM_attempt_ok_iff.mp performed, files⟩

theorem workflow_of_performed {b : Blueprint} {rs : List StepResult} {v : World}
    (performed : ((selected vars b.phases).mapM (perform settings vars)).outcome w.ticked = (.ok rs, v)) :
    ∃ c w', (workflow settings vars b).outcome w = (.ok c, w') ∧ w'.files = v.files := by
  obtain ⟨results, worlds⟩ := workflow_similar settings vars b w
  rw [mapM_attempt_ok_iff.mpr performed] at results worlds
  have files : ((workflow settings vars b).outcome w).2.silent.files = v.ticked.silent.files :=
    congrArg World.files worlds
  exact ⟨_, _, Prod.ext results rfl, files⟩

/-- A run of a blueprint whose steps make directories and create files succeeds again on the files that
it has left, and leaves them as they are, if in both runs all conflicts are decided alike: to overwrite
what is there, or to skip it. -/
theorem workflow_again {b : Blueprint} {c : Completed} {v : World}
    (mode : choice = .overwrite ∨ choice = .skip)
    (making : ∀ p ∈ b.phases, ∀ s ∈ p.steps, s.IsMaking)
    (unanimous : Unanimous settings vars choice (selected vars b.phases) w.ticked)
    (done : (workflow settings vars b).outcome w = (.ok c, w'))
    (here : v.directory = w.directory) (left : v.files = w'.files)
    (unanimous' : Unanimous settings vars choice (selected vars b.phases) v.ticked) :
    ∃ c' v', (workflow settings vars b).outcome v = (.ok c', v') ∧ v'.files = w'.files := by
  have unsaved : choice ≠ .backup := by
    rcases mode with rfl | rfl <;> nofun
  obtain ⟨rs, w₁, performed, files⟩ := performed_of_workflow done
  have again := mapM_perform_again unsaved (forall_selected vars making) unanimous performed
  rw [files] at left ⊢
  obtain ⟨rs', v₁, performed', -, repeats⟩ := again.repeats v.ticked here (left ▸ .refl _) unanimous'
  obtain ⟨c', v', done', files'⟩ := workflow_of_performed performed'
  refine ⟨c', v', done', files'.trans ?_⟩
  rw [show v.ticked.files = w₁.files from left] at repeats
  exact repeats.eq

/-- A file is created twice, and the second time what is there is overwritten, and so in the second run
both times. -/
theorem workflow_again_of_overwriting :
    let create (content : String) : Blueprint.Step :=
      { plainStep "file" "Readme" none with
        action := some "create", target := some (.single "out/README"), content := some content }
    let b : Blueprint := { Blueprint.empty with phases := [⟨"Setup", none, none,
      [{ plainStep "directory" "Folders" none with paths := ["out/a"] }, create "one", create "two"]⟩] }
    let w : World := ⟨⟨.empty, [], .typed []⟩, [], id, FileAction.always "overwrite", []⟩
    let settings : Settings := ⟨"work", false, fun _ here => ⟨some 0, "", [], here⟩⟩
    ∃ c w', (workflow settings ∅ b).outcome w = (.ok c, w') ∧
      w'.files.find? ["work", "out", "README"] = some (.file "two".toUTF8 false) ∧
      ∃ c' v', (workflow settings ∅ b).outcome (w.withFiles w'.files) = (.ok c', v') ∧
        v'.files = w'.files := by
  intro create b w settings
  have result : ((workflow settings ∅ b).outcome w).1 = .ok ⟨⟨[⟨"Folders", none, none⟩,
      ⟨"Readme", none, none⟩, ⟨"Readme", none, none⟩], []⟩, defaultMessage⟩ := by decide +kernel
  have done : (workflow settings ∅ b).outcome w = (.ok _, ((workflow settings ∅ b).outcome w).2) :=
    Prod.ext result rfl
  have known : ConflictChoice.ofText "overwrite" = .ok .overwrite := by
    have plain : Text.lowercase (Text.trimmed "overwrite") = "overwrite" := by decide +kernel
    rw [ConflictChoice.ofText, plain]
    rfl
  have making : ∀ p ∈ b.phases, ∀ s ∈ p.steps, s.IsMaking := by decide
  have unanimous (u : World) (same : u.respondent = w.respondent) :
      Unanimous settings ∅ .overwrite (selected ∅ b.phases) u :=
    unanimous_of_steady (forall_selected ∅ making) (same ▸ steady_always known)
  exact ⟨_, _, done, by decide +kernel,
    workflow_again (.inl rfl) making (unanimous _ rfl) done rfl rfl (unanimous _ rfl)⟩

end Run

end Scaffold
