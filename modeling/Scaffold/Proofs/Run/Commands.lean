import Scaffold.Proofs.Run.Failure

/-! The commands that a run executes. They are read off a run whose shell prints a mark of each command
that it is given: what a shell prints is shown and changes nothing else. -/
namespace Scaffold

def Event.printed? : Event → Option Printed
  | .printed p => some p
  | _ => none

def Transcript.printed (t : Transcript) : List Printed := t.filterMap Event.printed?

@[simp] theorem Transcript.printed_append (t u : Transcript) :
    Transcript.printed (t ++ u) = t.printed ++ u.printed := List.filterMap_append

theorem Transcript.printed_eq_nil {t : Transcript} (unprinted : ∀ e ∈ t, e.printed? = none) :
    t.printed = [] := List.filterMap_eq_nil_iff.mpr unprinted

/-- The same settings with a shell that prints the mark of a command instead of its output. -/
def Settings.marking (settings : Settings) (mark : Invocation → Printed) : Settings :=
  { settings with shell := fun i here => { settings.shell i here with printed := [mark i] } }

@[simp] theorem Settings.root_marking (settings : Settings) (mark : Invocation → Printed) :
    (settings.marking mark).root = settings.root := rfl

namespace Run

variable {α β : Type}

/-- A run executes these commands in this order: whatever the marks are, it shows those of these. -/
def Executes (settings : Settings) (vars : Variables) (b : Blueprint) (w : World)
    (commands : List Invocation) : Prop :=
  ∀ mark, ((workflow (settings.marking mark) vars b).outcome w.silent).2.transcript.printed =
    commands.map mark

theorem Executes.unique {settings : Settings} {vars : Variables} {b : Blueprint} {w : World}
    {commands others : List Invocation} (first : Executes settings vars b w commands)
    (second : Executes settings vars b w others) : commands = others := by
  have same (mark : Invocation → Printed) : commands.map mark = others.map mark :=
    (first mark).symm.trans (second mark)
  have length : commands.length = others.length := by
    simpa using congrArg List.length (same fun _ => .out [])
  refine List.ext_getElem length fun n inside inside' => ?_
  -- A mark that singles out one command tells whether both lists have it here.
  have here := congrArg (·[n]?) (same fun i => if i = commands[n] then .err [] else .out [])
  refine Decidable.byContradiction fun other => ?_
  simp [inside, inside', Ne.symm other] at here

/-! Computations that do the same whatever the marks are. -/

abbrev Unprinted (x : Run α) : Prop :=
  Within (fun e => e.printed? = none) (fun _ => True) x

theorem Reserved.unprinted {x : Run α} (reserved : Reserved x) : Unprinted x := by
  refine reserved.mono ?_ fun _ _ => trivial
  intro e remark
  cases e with
  | printed => cases remark
  | _ => rfl

/-- What a computation does from here does not depend on the marks, nor on what has been shown, and it
shows the marks of the same commands. -/
def Marked (x : (Invocation → Printed) → Run α) : Prop :=
  ∀ v : World, ∃ (r : Except Error α) (v' : World) (commands : List Invocation), ∀ mark w, w.silent = v →
    ((x mark).outcome w).1 = r ∧ ((x mark).outcome w).2.silent = v' ∧
      ((x mark).outcome w).2.transcript.printed = w.transcript.printed ++ commands.map mark

namespace Marked

theorem of_unprinted {x : Run α} (unprinted : Unprinted x) : Marked fun _ => x := by
  intro v
  refine ⟨(x.outcome v).1, (x.outcome v).2.silent, [], fun mark w same => ?_⟩
  have alike := unprinted.silent_outcome (w := w) (v := v) (by rw [← same]; rfl)
  obtain ⟨es, added, inside⟩ := unprinted.adds w
  refine ⟨alike.1, alike.2, ?_⟩
  rw [added, Transcript.printed_append, Transcript.printed_eq_nil inside]
  rfl

theorem bind {x : (Invocation → Printed) → Run α} {f : (Invocation → Printed) → α → Run β}
    (first : Marked x) (next : ∀ a, Marked fun mark => f mark a) :
    Marked fun mark => x mark >>= f mark := by
  intro v
  obtain ⟨r, v₁, commands, ran⟩ := first v
  cases r with
  | error e =>
    refine ⟨.error e, v₁, commands, fun mark w same => ?_⟩
    obtain ⟨result, world, shown⟩ := ran mark w same
    have failed : ((x mark).outcome w) = (.error e, ((x mark).outcome w).2) := Prod.ext result rfl
    rw [outcome_bind, failed]
    exact ⟨rfl, world, shown⟩
  | ok a =>
    obtain ⟨r', v₂, others, ran'⟩ := next a v₁
    refine ⟨r', v₂, commands ++ others, fun mark w same => ?_⟩
    obtain ⟨result, world, shown⟩ := ran mark w same
    have done : ((x mark).outcome w) = (.ok a, ((x mark).outcome w).2) := Prod.ext result rfl
    obtain ⟨result', world', shown'⟩ := ran' mark _ world
    rw [outcome_bind, done]
    refine ⟨result', world', ?_⟩
    rw [shown', shown, List.map_append, List.append_assoc]

theorem tryCatch {x : (Invocation → Printed) → Run α} {f : Error → Run α} (first : Marked x)
    (next : ∀ e, Unprinted (f e)) : Marked fun mark => tryCatch (x mark) f := by
  intro v
  obtain ⟨r, v₁, commands, ran⟩ := first v
  cases r with
  | ok a =>
    refine ⟨.ok a, v₁, commands, fun mark w same => ?_⟩
    obtain ⟨result, world, shown⟩ := ran mark w same
    have done : ((x mark).outcome w) = (.ok a, ((x mark).outcome w).2) := Prod.ext result rfl
    rw [outcome_tryCatch, done]
    exact ⟨rfl, world, shown⟩
  | error e =>
    obtain ⟨r', v₂, others, ran'⟩ := of_unprinted (next e) v₁
    refine ⟨r', v₂, commands ++ others, fun mark w same => ?_⟩
    obtain ⟨result, world, shown⟩ := ran mark w same
    have failed : ((x mark).outcome w) = (.error e, ((x mark).outcome w).2) := Prod.ext result rfl
    obtain ⟨result', world', shown'⟩ := ran' mark _ world
    rw [outcome_tryCatch, failed]
    refine ⟨result', world', ?_⟩
    rw [shown', shown, List.map_append, List.append_assoc]

theorem mapM {f : (Invocation → Printed) → α → Run β} (each : ∀ a, Marked fun mark => f mark a)
    (xs : List α) : Marked fun mark => xs.mapM (f mark) := by
  induction xs with
  | nil =>
    simp only [List.mapM_nil]
    exact of_unprinted (.pure [])
  | cons a xs ih =>
    simp only [List.mapM_cons]
    exact (each a).bind fun b => ih.bind fun bs => of_unprinted (.pure (b :: bs))

end Marked

section Running

variable (settings : Settings) (vars : Variables)

/-- Starts a command and gives its exit code if it has succeeded. -/
def launched (shell : Shell) (i : Invocation) : Run (Option Nat) := do
  let finished ← launch shell i
  if finished.isSuccess then return finished.code
  else throw (.commandFailed i.command finished.code)

theorem takeAction_command (shell : Shell) (command path : String) (isInteractive : Bool)
    (interactions : List Blueprint.Interaction) :
    takeAction shell (.command command path isInteractive interactions) =
      (commandDirectory command path >>= fun place => launched shell
        ⟨command, place, if isInteractive then some interactions else none⟩) := by
  simp only [takeAction, runCommand, launched]
  have opened (given : Option (List Blueprint.Interaction)) : execute shell command path given =
      (commandDirectory command path >>= fun place => launch shell ⟨command, place, given⟩) := rfl
  rw [opened, bind_assoc, bind_assoc]
  refine congrArg (commandDirectory command path >>= ·) (funext fun place => ?_)
  refine congrArg (launch shell _ >>= ·) (funext fun finished => ?_)
  cases finished.isSuccess <;> rfl

theorem outcome_launched (shell : Shell) (i : Invocation) (w : World) :
    (launched shell i).outcome w =
      let finished := shell i w.surroundings
      (if finished.isSuccess then .ok finished.code
        else .error (.commandFailed i.command finished.code), { w with
          surroundings := finished.surroundings
          transcript := w.transcript ++ finished.printed.map .printed }) := by
  rw [launched, outcome_bind, outcome_launch]
  dsimp only
  cases (shell i w.surroundings).isSuccess <;> rfl

theorem marked_launched (i : Invocation) :
    Marked fun mark => launched (settings.marking mark).shell i := by
  intro v
  refine ⟨((launched settings.shell i).outcome v).1, ((launched settings.shell i).outcome v).2.silent,
    [i], ?_⟩
  rintro mark w rfl
  rw [outcome_launched, outcome_launched]
  refine ⟨rfl, rfl, ?_⟩
  rw [Transcript.printed_append]
  rfl

theorem unprinted_warned {α : Type} (x : Warned α) : Unprinted (warned x) :=
  .bind (.forM fun _ => .emit rfl) fun _ => .pure _

theorem unprinted_resolved {α : Type} (x : Resolving α) : Unprinted (resolved x) :=
  .bind (unprinted_warned _) fun _ => .liftM fun _ _ => trivial

theorem unprinted_meets (condition : Option String) : Unprinted (meets vars condition) := by
  cases condition with
  | none => exact .pure _
  | some c => exact unprinted_warned _

theorem unprinted_texts (template : Option String) : Unprinted (template.mapM (text vars)) := by
  cases template with
  | none => exact .pure _
  | some t => exact .bind (unprinted_warned _) fun _ => .pure _

theorem unprinted_showHeader (b : Blueprint) : Unprinted (showHeader vars b) := by
  unfold showHeader
  cases b.about.name with
  | none => exact .pure _
  | some name => exact .bind (unprinted_warned _) fun _ => .emit rfl

theorem marked_takeAction (action : StepAction) :
    Marked fun mark => takeAction (settings.marking mark).shell action := by
  cases action with
  | command command path isInteractive interactions =>
    simp only [takeAction_command]
    exact (Marked.of_unprinted (reserved_commandDirectory command path).unprinted).bind fun place =>
      marked_launched settings _
  | directories paths =>
    exact .of_unprinted (.bind (reserved_makeDirectories paths).unprinted fun _ => .pure _)
  | file action => exact .of_unprinted (.bind action.reserved_take.unprinted fun _ => .pure _)

theorem marked_executeStep (step : ResolvedStep) :
    Marked fun mark => executeStep (settings.marking mark) step := by
  unfold executeStep
  cases dry : settings.isDryRun with
  | true =>
    simp only [Settings.marking, dry, if_true]
    exact .of_unprinted (.pure _)
  | false =>
    simp only [Settings.marking, dry, Bool.false_eq_true, if_false]
    refine (marked_takeAction settings step.action).bind fun code => .of_unprinted ?_
    cases step.check with
    | none => exact .pure _
    | some c => exact .bind (reserved_check c).unprinted fun _ => .pure _

theorem unprinted_say {severity : Severity} {α : Type} (t : String) (a : α) :
    Unprinted (say severity t >>= fun _ => pure a) := .bind (.say rfl) fun _ => .pure a

theorem marked_resolveAndExecute (s : Blueprint.Step) :
    Marked fun mark => resolveAndExecute (settings.marking mark) vars s := by
  simp only [resolveAndExecute, Settings.root_marking]
  refine .bind (.of_unprinted (unprinted_resolved _)) fun step => ?_
  refine .bind (.of_unprinted (.emit rfl)) fun _ => ?_
  refine .bind (marked_executeStep settings step) fun result => ?_
  cases result.description with
  | none => exact .of_unprinted (unprinted_say _ result)
  | some description => exact .of_unprinted (unprinted_say _ result)

theorem marked_takeStep (s : Blueprint.Step) :
    Marked fun mark => takeStep (settings.marking mark) vars s := by
  unfold takeStep
  refine .bind (.of_unprinted (unprinted_warned _)) fun title => ?_
  refine .bind (.of_unprinted (unprinted_meets vars s.condition)) fun met => ?_
  cases met with
  | true =>
    exact .bind ((marked_resolveAndExecute settings vars s).tryCatch fun _ => .throw trivial)
      fun result => .of_unprinted (.pure _)
  | false => exact .of_unprinted (unprinted_say _ _)

theorem marked_takePhase (p : Blueprint.Phase) :
    Marked fun mark => takePhase (settings.marking mark) vars p := by
  unfold takePhase
  refine .bind (.of_unprinted (unprinted_warned _)) fun title => ?_
  refine .bind (.of_unprinted (unprinted_meets vars p.condition)) fun met => ?_
  cases met with
  | true =>
    refine .bind (.of_unprinted (unprinted_texts vars p.description)) fun description => ?_
    refine .bind (.of_unprinted (.emit rfl)) fun _ => ?_
    exact .bind (.mapM (marked_takeStep settings vars) p.steps) fun ps => .of_unprinted (.pure _)
  | false => exact .of_unprinted (unprinted_say _ _)

theorem marked_workflow (b : Blueprint) :
    Marked fun mark => workflow (settings.marking mark) vars b := by
  unfold workflow
  refine .bind (.of_unprinted .now) fun start => ?_
  refine .bind (.of_unprinted (unprinted_showHeader vars b)) fun _ => ?_
  refine .bind (.mapM (marked_takePhase settings vars) b.phases) fun ps => ?_
  refine .of_unprinted (.bind .now fun stop => .bind (.emit rfl) fun _ => ?_)
  exact .bind (unprinted_warned _) fun message => unprinted_say _ _

/-- Every run executes a list of commands. -/
theorem exists_executes (b : Blueprint) (w : World) :
    ∃ commands, Executes settings vars b w commands := by
  obtain ⟨r, v, commands, ran⟩ := marked_workflow settings vars b w.silent
  refine ⟨commands, fun mark => ?_⟩
  rw [(ran mark w.silent rfl).2.2]
  rfl

end Running

end Run

end Scaffold
