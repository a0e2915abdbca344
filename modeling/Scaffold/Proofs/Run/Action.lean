import Scaffold.Proofs.Run.Outcome

/-! What the actions and checks of steps show and how they fail. They add notes, warnings, questions
and the output of commands only, and leave it to the run to say how far it is and which step failed. -/
namespace Scaffold

/-- Events by which a run tells how far it is. -/
def Event.isProgress : Event → Bool
  | .said .message _ | .said .success _ | .said .skipped _ => true
  | .phase .. | .step .. | .header .. | .summary _ => true
  | _ => false

/-- Events by which an action speaks for itself, other than through a command. -/
def Event.isRemark : Event → Bool
  | .said .note _ | .said .warning _ | .asked _ => true
  | _ => false

def Error.isOfStep : Error → Bool
  | .stepFailed .. => true
  | _ => false

namespace Run

/-- What is known of the actions and checks of steps. -/
abbrev Quiet {α : Type} (x : Run α) : Prop :=
  Within (fun e => e.isProgress = false) (fun e => e.isOfStep = false) x

/-- What is known of those that start no command. -/
abbrev Reserved {α : Type} (x : Run α) : Prop :=
  Within (fun e => e.isRemark = true) (fun e => e.isOfStep = false) x

theorem Reserved.quiet {α : Type} {x : Run α} (reserved : Reserved x) : Quiet x := by
  refine reserved.mono ?_ fun _ kind => kind
  intro e remark
  cases e with
  | said severity => cases severity <;> first | rfl | cases remark
  | asked => rfl
  | _ => cases remark

theorem refusal_isOfStep (r : Respondent) (q : Question) {e : Error}
    (refused : (r.ask q).1 = .error e) :
    e.isOfStep = false := by
  have answered {s : String} (failed : q.answer s = .error e) : e.isOfStep = false := by
    unfold Question.answer at failed
    split at failed
    · cases failed; rfl
    · cases failed
  unfold Respondent.ask at refused
  cases r with
  | script s => exact answered refused
  | environment overrides =>
    dsimp only at refused
    split at refused
    · exact answered refused
    · cases refused; rfl
  | terminal =>
    cases refused
    unfold Respondent.refusal
    split <;> rfl

theorem reserved_ask (q : Question) : Reserved (ask q) :=
  .ask rfl fun r _ refused => refusal_isOfStep r q refused

end Run

open Run

namespace FileAction

theorem reserved_ensureParent (path : String) : Reserved (ensureParent path) := by
  unfold ensureParent
  split
  · split
    · exact .onFiles fun _ => rfl
    · exact .pure _
  · exact .pure _

theorem reserved_writeText (path content : String) : Reserved (writeText path content) :=
  .onFiles fun _ => rfl

theorem reserved_askConflict (path : String) : Reserved (askConflict path) := by
  refine .bind (reserved_ask _) fun answer => .liftM ?_
  intro e failed
  unfold ConflictChoice.ofText at failed
  split at failed <;> cases failed
  rfl

theorem reserved_backUp (path : String) : Reserved (backUp path) :=
  .bind .now fun _ => .bind (.onFiles fun _ => rfl) fun _ => .say rfl

theorem reserved_createFile (path content : String) : Reserved (createFile path content) := by
  refine .bind (reserved_ensureParent path) fun _ => .bind .files fun t => .bind .directory fun here => ?_
  refine .ite (.bind (reserved_askConflict path) fun choice => ?_) (reserved_writeText path content)
  cases choice with
  | skip => exact .say rfl
  | backup => exact .bind (reserved_backUp path) fun _ => reserved_writeText path content
  | overwrite => exact reserved_writeText path content

theorem reserved_existingText (path : String) : Reserved (existingText path) := by
  refine .bind .files fun t => .bind .directory fun here => ?_
  split
  · exact .pure _
  · exact .bind (.say rfl) fun _ => .pure _
  · exact .throw rfl

theorem reserved_editFile (path content : String) (change : Option FindReplace) :
    Reserved (editFile path content change) := by
  refine .bind (reserved_ensureParent path) fun _ => .bind (reserved_existingText path) fun existing => ?_
  refine .bind (.liftM ?_) fun text => reserved_writeText path text
  intro e failed
  cases change with
  | none => cases failed
  | some change =>
    simp only [Edit.edited, Edit.findReplace] at failed
    split at failed <;> cases failed
    rfl

theorem reserved_deleteFile (path : String) : Reserved (deleteFile path) := by
  refine .bind (reserved_ensureParent path) fun _ => .tryCatch (.onFiles fun _ => rfl) fun e kind => ?_
  split
  · exact .say rfl
  · exact .throw kind

theorem reserved_moveFile (source destination : String) : Reserved (moveFile source destination) := by
  refine .bind .files fun t => .bind .directory fun here => .ite ?_ ?_
  · exact .bind (.throw rfl) fun _ =>
      .bind (reserved_ensureParent destination) fun _ => .onFiles fun _ => rfl
  · exact .bind (reserved_ensureParent destination) fun _ => .onFiles fun _ => rfl

theorem reserved_take (action : FileAction) : Reserved action.take := by
  cases action with
  | create path content => exact reserved_createFile path content
  | edit path content change => exact reserved_editFile path content change
  | delete path => exact reserved_deleteFile path
  | move source destination => exact reserved_moveFile source destination

end FileAction

namespace Run

theorem reserved_makeDirectories (paths : List String) : Reserved (makeDirectories paths) :=
  .forM fun _ => .bind .files fun _ => .bind .directory fun _ =>
    .ite (.say rfl) (.onFiles fun _ => rfl)

theorem reserved_check (c : StepCheck) : Reserved (check c) := by
  cases c with
  | «exists» path =>
    exact .bind .files fun t => .bind .directory fun here => .ite (.throw rfl) (.pure _)
  | contains path text =>
    refine .bind .files fun t => .bind .directory fun here => ?_
    split
    · exact .ite (.throw rfl) (.pure _)
    · exact .throw rfl
  | unknown test => exact .say rfl

theorem reserved_commandDirectory (command path : String) :
    Reserved (commandDirectory command path) := by
  unfold commandDirectory
  refine .ite (.bind (.throw rfl) fun _ => ?_) ?_
  all_goals
    refine .bind .files fun t => .bind .directory fun here => ?_
    split
    · exact .ite (.pure _) (.throw rfl)
    · exact .throw rfl

def launch (shell : Shell) (i : Invocation) : Run Finished := do
  let finished := shell i (← get).surroundings
  modify fun w => { w with surroundings := finished.surroundings }
  finished.printed.forM fun p => emit (.printed p)
  return finished

theorem outcome_launch (shell : Shell) (i : Invocation) (w : World) :
    (launch shell i).outcome w =
      let finished := shell i w.surroundings
      (.ok finished, { w with
        surroundings := finished.surroundings
        transcript := w.transcript ++ finished.printed.map .printed }) := by
  let finished := shell i w.surroundings
  have opened : (launch shell i).outcome w =
      ((finished.printed.forM fun p => emit (.printed p)) >>= fun _ => pure finished : Run Finished).outcome
        { w with surroundings := finished.surroundings } := rfl
  rw [opened, outcome_bind, outcome_forM_emit]
  rfl

theorem quiet_launch (shell : Shell) (i : Invocation) : Quiet (launch shell i) where
  framed es w := by simp [outcome_launch, World.prepend]
  adds w := by
    refine ⟨_, by rw [outcome_launch], ?_⟩
    intro e member
    obtain ⟨p, -, rfl⟩ := List.mem_map.mp member
    rfl
  fails w e failed := by
    rw [outcome_launch] at failed
    cases failed

theorem quiet_execute (shell : Shell) (command path : String)
    (interactions : Option (List Blueprint.Interaction)) :
    Quiet (execute shell command path interactions) :=
  .bind (reserved_commandDirectory command path).quiet fun place =>
    quiet_launch shell ⟨command, place, interactions⟩

theorem quiet_runCommand (shell : Shell) (command path : String)
    (interactions : Option (List Blueprint.Interaction)) :
    Quiet (runCommand shell command path interactions) :=
  .bind (quiet_execute shell command path interactions) fun _ => .ite (.pure _) (.throw rfl)

theorem quiet_takeAction (shell : Shell) (action : StepAction) : Quiet (takeAction shell action) := by
  cases action with
  | command command path isInteractive interactions =>
    exact .bind (quiet_runCommand shell command path _) fun _ => .pure _
  | directories paths => exact .bind (reserved_makeDirectories paths).quiet fun _ => .pure _
  | file action => exact .bind action.reserved_take.quiet fun _ => .pure _

theorem quiet_executeStep (settings : Settings) (s : ResolvedStep) :
    Quiet (executeStep settings s) := by
  unfold executeStep
  refine .ite (.pure _) (.bind (quiet_takeAction settings.shell s.action) fun code => ?_)
  cases s.check with
  | none => exact .pure _
  | some c => exact .bind (reserved_check c).quiet fun _ => .pure _

end Run

end Scaffold
