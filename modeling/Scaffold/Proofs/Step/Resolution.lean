import Scaffold.Step.Resolved

/-! What the resolution of a step comes to: the title of a resolved step, and the errors that a
resolution may end with. -/
namespace Scaffold.Blueprint.Step

/-- A step that makes directories or creates a file, and asks for nothing to hold afterwards. -/
def IsMaking (s : Step) : Prop :=
  s.check = none ∧ (s.type = "directory" ∨ s.type = "file" ∧ s.action = some "create")

instance (s : Step) : Decidable s.IsMaking := inferInstanceAs (Decidable (_ ∧ _))

end Scaffold.Blueprint.Step

namespace Scaffold.Resolving

variable {α β : Type}

def result (x : Resolving α) : Except Error α := x.run.value

theorem result_bind (x : Resolving α) (f : α → Resolving β) :
    (x >>= f).result = x.result.bind fun a => (f a).result := by
  show Warned.value (ExceptT.bindCont f x.run.value) = x.run.value.bind _
  cases x.run.value <;> rfl

theorem bind_eq_ok {x : Resolving α} {f : α → Resolving β} {b : β} (ok : (x >>= f).result = .ok b) :
    ∃ a, x.result = .ok a ∧ (f a).result = .ok b := by
  rw [result_bind] at ok
  cases result : x.result with
  | error e => simp [result, Except.bind] at ok
  | ok a => exact ⟨a, rfl, by simpa [result, Except.bind] using ok⟩

/-- A resolution that ends ends with an error of one of the kinds that steps of a blueprint give rise
to. -/
def Complains (x : Resolving α) : Prop :=
  ∀ e, x.result = .error e → (∃ cause, e = .invalidConfiguration cause) ∨
    (∃ type, e = .unsupportedStep type) ∨ ∃ action, e = .unsupportedAction action

namespace Complains

theorem pure (a : α) : Complains (pure a : Resolving α) := nofun

theorem liftM (x : Warned α) : Complains (liftM x : Resolving α) := nofun

theorem invalid (cause : Misconfiguration) :
    Complains (ResolvedStep.invalid cause : Resolving α) := by
  intro e failed
  cases failed
  exact .inl ⟨cause, rfl⟩

theorem bind {x : Resolving α} {f : α → Resolving β} (first : Complains x)
    (next : ∀ a, Complains (f a)) : Complains (x >>= f) := by
  intro e failed
  rw [result_bind] at failed
  cases result : x.result with
  | error e' =>
    rw [result] at failed
    cases failed
    exact first e result
  | ok a =>
    rw [result] at failed
    exact next a e failed

theorem optionMapM {f : α → Resolving β} (each : ∀ a, Complains (f a)) (o : Option α) :
    Complains (o.mapM f) := by
  cases o with
  | none => exact .pure none
  | some a => exact .bind (each a) fun b => .pure (some b)

theorem listMapM {f : α → Resolving β} (each : ∀ a, Complains (f a)) (xs : List α) :
    Complains (xs.mapM f) := by
  induction xs with
  | nil => exact .pure []
  | cons x xs ih =>
    rw [List.mapM_cons]
    exact .bind (each x) fun b => .bind ih fun bs => .pure (b :: bs)

end Complains

end Scaffold.Resolving

namespace Scaffold.ResolvedStep

open Resolving

variable (vars : Variables) (root : String) (s : Blueprint.Step)

theorem complains_need {α : Type} (field : String) (value : Option α) :
    Complains (need s field value) := by
  cases value with
  | none => exact .invalid _
  | some a => exact .pure a

theorem complains_path (template : String) : Complains (path vars root template) :=
  .bind (.liftM _) fun _ => .pure _

theorem complains_contentOf : Complains (contentOf vars s) := by
  unfold contentOf
  split
  · exact .liftM _
  · exact .pure _

theorem complains_changeOf : Complains (changeOf vars s) := by
  unfold changeOf
  split
  · exact .bind (.liftM _) fun _ => .bind (.liftM _) fun _ => .pure _
  · exact .pure _

theorem complains_singlePath (action : String) (target : Blueprint.Target) :
    Complains (singlePath vars root s action target) := by
  cases target with
  | single p => exact complains_path vars root p
  | move source destination => exact .invalid _

theorem complains_commandOf : Complains (commandOf vars root s) := by
  refine .bind (complains_need s "cmd" s.command) fun command => ?_
  have rest (directory : String) : Complains (do
      return .command (← text vars command) directory s.isInteractive s.interactions :
        Resolving StepAction) :=
    .bind (.liftM _) fun _ => .pure _
  cases s.directory with
  | none => exact .bind (.pure root) rest
  | some d => exact .bind (complains_path vars root d) rest

theorem complains_fileActionOf : Complains (fileActionOf vars root s) := by
  have content := complains_contentOf vars s
  refine .bind (complains_need s "action" s.action) fun action =>
    .bind (complains_need s "path" s.target) fun target => ?_
  have single (action : String) := complains_singlePath vars root s action target
  split
  · exact .bind (single _) fun _ => .bind content fun _ => .pure _
  · exact .bind (complains_changeOf vars s) fun _ => .bind (single _) fun _ =>
      .bind content fun _ => .pure _
  · exact .bind (single _) fun _ => .pure _
  · cases target with
    | move source destination =>
      exact .bind (complains_path vars root source) fun _ =>
        .bind (complains_path vars root destination) fun _ => .pure _
    | single p => exact .invalid _
  · intro e failed
    cases failed
    exact .inr (.inr ⟨_, rfl⟩)

theorem complains_actionOf : Complains (actionOf vars root s) := by
  unfold actionOf
  split
  · exact complains_commandOf vars root s
  · exact .bind (.listMapM (complains_path vars root) s.paths) fun _ => .pure _
  · exact .bind (complains_fileActionOf vars root s) fun _ => .pure _
  · intro e failed
    cases failed
    exact .inr (.inl ⟨_, rfl⟩)

theorem complains_checkOf (title : String) (c : Blueprint.Check) :
    Complains (checkOf vars root title c) := by
  refine .bind (complains_path vars root c.path) fun place => ?_
  split
  · exact .pure _
  · cases c.text with
    | none => exact .invalid _
    | some t => exact .bind (.liftM _) fun _ => .pure _
  · exact .pure _

/-- A step fails to resolve only for what the blueprint says of it. -/
theorem complains_ofStep : Complains (ofStep vars root s) :=
  .bind (complains_actionOf vars root s) fun _ =>
    .bind (.optionMapM (complains_checkOf vars root s.title) s.check) fun _ =>
      .bind (.liftM _) fun _ => .bind (.optionMapM (fun _ => .liftM _) s.description) fun _ =>
        .pure _

variable {vars root s}

theorem title_of_ofStep {step : ResolvedStep} (ok : (ofStep vars root s).result = .ok step) :
    step.title = (Template.resolve vars s.title).value := by
  obtain ⟨action, -, ok⟩ := bind_eq_ok ok
  obtain ⟨check, -, ok⟩ := bind_eq_ok ok
  obtain ⟨title, read, ok⟩ := bind_eq_ok ok
  obtain ⟨description, -, ok⟩ := bind_eq_ok ok
  cases read
  cases ok
  rfl

/-- What becomes of a step that makes directories or creates a file. -/
def IsMaking (step : ResolvedStep) : Prop :=
  step.check = none ∧
    ((∃ paths, step.action = .directories paths) ∨ ∃ path content, step.action = .file (.create path content))

theorem isMaking_of_ofStep {step : ResolvedStep} (ok : (ofStep vars root s).result = .ok step)
    (making : s.IsMaking) : step.IsMaking := by
  obtain ⟨unchecked, kind⟩ := making
  obtain ⟨action, acts, ok⟩ := bind_eq_ok ok
  obtain ⟨check, checks, ok⟩ := bind_eq_ok ok
  obtain ⟨title, -, ok⟩ := bind_eq_ok ok
  obtain ⟨description, -, ok⟩ := bind_eq_ok ok
  cases ok
  rw [unchecked] at checks
  cases checks
  refine ⟨rfl, ?_⟩
  rcases kind with type | ⟨type, create⟩
  · rw [actionOf, type] at acts
    obtain ⟨paths, -, acts⟩ := bind_eq_ok acts
    cases acts
    exact .inl ⟨paths, rfl⟩
  · rw [actionOf, type] at acts
    obtain ⟨action, makes, acts⟩ := bind_eq_ok acts
    cases acts
    rw [fileActionOf, create] at makes
    obtain ⟨name, named, makes⟩ := bind_eq_ok makes
    cases named
    obtain ⟨target, -, makes⟩ := bind_eq_ok makes
    obtain ⟨path, -, makes⟩ := bind_eq_ok makes
    obtain ⟨content, -, makes⟩ := bind_eq_ok makes
    cases makes
    exact .inr ⟨path, content, rfl⟩

end Scaffold.ResolvedStep
