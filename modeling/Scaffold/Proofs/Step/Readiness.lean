import Scaffold.Proofs.Files.Path
import Scaffold.Proofs.Step.Resolution

/-! Whether a step can be resolved, and what it fails for, is a matter of the blueprint alone. The
variables and the root decide what the fields of a resolved step say, and nothing else. -/
namespace Scaffold

namespace Blueprint.Step

/-! What the blueprint says of a step. -/

/-- The file actions that are about one path. -/
def singleActions : List String := ["create", "edit", "delete"]

/-- The step names a known action and gives the fields that it needs. -/
inductive HasAction (s : Step) : Prop where
  | command {command : String} (type : s.type = "command") (given : s.command = some command)
  | directories (type : s.type = "directory")
  | single {action path : String} (type : s.type = "file") (named : s.action = some action)
      (known : action ∈ singleActions) (target : s.target = some (.single path))
  | move {source destination : String} (type : s.type = "file") (named : s.action = some "move")
      (target : s.target = some (.move source destination))

/-- What is wrong with the action of a step. -/
inductive ActionFault (s : Step) : Error → Prop where
  | unknownType (other : s.type ∉ ["command", "directory", "file"]) :
      ActionFault s (.unsupportedStep s.type)
  | noCommand (type : s.type = "command") (missing : s.command = none) :
      ActionFault s (.invalidConfiguration (.missingField "command" s.title "cmd"))
  | noAction (type : s.type = "file") (missing : s.action = none) :
      ActionFault s (.invalidConfiguration (.missingField "file" s.title "action"))
  | noTarget {action : String} (type : s.type = "file") (named : s.action = some action)
      (missing : s.target = none) :
      ActionFault s (.invalidConfiguration (.missingField "file" s.title "path"))
  | unknownAction {action : String} {target : Target} (type : s.type = "file")
      (named : s.action = some action) (given : s.target = some target)
      (other : action ∉ "move" :: singleActions) : ActionFault s (.unsupportedAction action)
  | pairOfPaths {action source destination : String} (type : s.type = "file")
      (named : s.action = some action) (known : action ∈ singleActions)
      (target : s.target = some (.move source destination)) :
      ActionFault s (.invalidConfiguration (.pairOfPaths s.title action))
  | singlePath {path : String} (type : s.type = "file") (named : s.action = some "move")
      (target : s.target = some (.single path)) :
      ActionFault s (.invalidConfiguration (.singlePath s.title))

/-- A test for a text has one. -/
def HasCheck (s : Step) : Prop := ∀ c, s.check = some c → c.test = "contains" → c.text ≠ none

inductive CheckFault (s : Step) : Error → Prop where
  | noText {c : Check} (check : s.check = some c) (test : c.test = "contains") (missing : c.text = none) :
      CheckFault s (.invalidConfiguration (.missingText s.title))

theorem hasAction_or_actionFault (s : Step) : s.HasAction ∨ ∃ e, s.ActionFault e := by
  by_cases known : s.type ∈ ["command", "directory", "file"]
  · simp only [List.mem_cons, List.not_mem_nil, or_false] at known
    rcases known with type | type | type
    · cases given : s.command with
      | none => exact .inr ⟨_, .noCommand type given⟩
      | some command => exact .inl (.command type given)
    · exact .inl (.directories type)
    · cases named : s.action with
      | none => exact .inr ⟨_, .noAction type named⟩
      | some action =>
        cases target : s.target with
        | none => exact .inr ⟨_, .noTarget type named target⟩
        | some target' =>
          by_cases other : action ∈ "move" :: singleActions
          · rcases List.mem_cons.mp other with rfl | single
            · cases target' with
              | single path => exact .inr ⟨_, .singlePath type named target⟩
              | move source destination => exact .inl (.move type named target)
            · cases target' with
              | single path => exact .inl (.single type named single target)
              | move source destination => exact .inr ⟨_, .pairOfPaths type named single target⟩
          · exact .inr ⟨_, .unknownAction type named target other⟩
  · exact .inr ⟨_, .unknownType known⟩

theorem hasCheck_or_checkFault (s : Step) : s.HasCheck ∨ ∃ e, s.CheckFault e := by
  cases check : s.check with
  | none => exact .inl fun c found => by rw [check] at found; cases found
  | some c =>
    by_cases lacking : c.test = "contains" ∧ c.text = none
    · exact .inr ⟨_, .noText check lacking.1 lacking.2⟩
    · refine .inl fun c' found test missing => ?_
      cases check.symm.trans found
      exact lacking ⟨test, missing⟩

end Blueprint.Step

namespace ResolvedStep

/-! What a resolved step says. -/

section

variable (vars : Variables) (root : String)

def filled (template : String) : String := (Template.resolve vars template).value

def place (template : String) : String := Path.join root (filled vars template)

/-- The action that a step comes to. -/
inductive ActsAs (s : Blueprint.Step) : StepAction → Prop where
  | command {command : String} (type : s.type = "command") (given : s.command = some command) :
      ActsAs s (.command (filled vars command) ((s.directory.map (place vars root)).getD root)
        s.isInteractive s.interactions)
  | directories (type : s.type = "directory") :
      ActsAs s (.directories (s.paths.map (place vars root)))
  | create {path : String} (type : s.type = "file") (named : s.action = some "create")
      (target : s.target = some (.single path)) :
      ActsAs s (.file (.create (place vars root path) ((s.content.map (filled vars)).getD "")))
  | edit {path : String} (type : s.type = "file") (named : s.action = some "edit")
      (target : s.target = some (.single path)) :
      ActsAs s (.file (.edit (place vars root path) ((s.content.map (filled vars)).getD "")
        (s.find.bind fun find => s.replacement.map fun replacement =>
          ⟨filled vars find, filled vars replacement⟩)))
  | delete {path : String} (type : s.type = "file") (named : s.action = some "delete")
      (target : s.target = some (.single path)) : ActsAs s (.file (.delete (place vars root path)))
  | move {source destination : String} (type : s.type = "file") (named : s.action = some "move")
      (target : s.target = some (.move source destination)) :
      ActsAs s (.file (.move (place vars root source) (place vars root destination)))

/-- The check that a check of the blueprint comes to. -/
inductive ChecksAs (c : Blueprint.Check) : StepCheck → Prop where
  | exists (test : c.test = "exists") : ChecksAs c (.exists (place vars root c.path))
  | contains {text : String} (test : c.test = "contains") (given : c.text = some text) :
      ChecksAs c (.contains (place vars root c.path) (filled vars text))
  | unknown (other : c.test ∉ ["exists", "contains"]) : ChecksAs c (.unknown c.test)

/-- A resolved step, told from the fields of the step in the blueprint. -/
structure Says (s : Blueprint.Step) (step : ResolvedStep) : Prop where
  title : step.title = filled vars s.title
  description : step.description = s.description.map (filled vars)
  action : ActsAs vars root s step.action
  check : Option.Rel (ChecksAs vars root) s.check step.check

end

variable {vars : Variables} {root : String} {s : Blueprint.Step}

/-! Resolving. -/

theorem result_mapM_path (paths : List String) :
    Resolving.result (paths.mapM (path vars root)) = .ok (paths.map (place vars root)) := by
  induction paths with
  | nil => rfl
  | cons p paths ih =>
    rw [List.mapM_cons, Resolving.result_bind]
    simp only [Resolving.result_bind, ih]
    rfl

theorem result_actionOf_of_hasAction (vars : Variables) (root : String) (has : s.HasAction) :
    ∃ a, (actionOf vars root s).result = .ok a ∧ ActsAs vars root s a := by
  cases has with
  | command type given =>
    refine ⟨_, ?_, .command type given⟩
    simp only [actionOf, type, commandOf, given]
    cases s.directory <;> rfl
  | directories type =>
    refine ⟨_, ?_, .directories type⟩
    simp only [actionOf, type, Resolving.result_bind, result_mapM_path]
    rfl
  | single type named known target =>
    simp only [actionOf, type, fileActionOf, named, target]
    simp only [Blueprint.Step.singleActions, List.mem_cons, List.not_mem_nil, or_false] at known
    rcases known with rfl | rfl | rfl
    · refine ⟨_, ?_, .create type named target⟩
      simp only [contentOf]
      cases s.content <;> rfl
    · refine ⟨_, ?_, .edit type named target⟩
      simp only [contentOf, changeOf]
      cases s.content <;> cases s.find <;> cases s.replacement <;> rfl
    · exact ⟨_, rfl, .delete type named target⟩
  | move type named target =>
    refine ⟨_, ?_, .move type named target⟩
    simp only [actionOf, type, fileActionOf, named, target]
    rfl

theorem result_actionOf_of_actionFault {e : Error} (fault : s.ActionFault e) :
    (actionOf vars root s).result = .error e := by
  cases fault with
  | unknownType other =>
    simp only [List.mem_cons, List.not_mem_nil, or_false, not_or] at other
    simp only [actionOf]
    split
    · exact absurd ‹_› other.1
    · exact absurd ‹_› other.2.1
    · exact absurd ‹_› other.2.2
    · rfl
  | noCommand type missing =>
    simp only [actionOf, type, commandOf, missing, need]
    rfl
  | noAction type missing =>
    simp only [actionOf, type, fileActionOf, missing, need]
    rfl
  | noTarget type named missing =>
    simp only [actionOf, type, fileActionOf, named, missing, need]
    rfl
  | @unknownAction action target type named given other =>
    have result : (fileActionOf vars root s).result = .error (.unsupportedAction action) := by
      simp only [Blueprint.Step.singleActions, List.mem_cons, List.not_mem_nil, or_false, not_or] at other
      simp only [fileActionOf, named, given, need, pure_bind]
      split
      · exact absurd rfl other.2.1
      · exact absurd rfl other.2.2.1
      · exact absurd rfl other.2.2.2
      · exact absurd rfl other.1
      · rfl
    simp only [actionOf, type, Resolving.result_bind, result]
    rfl
  | pairOfPaths type named known target =>
    simp only [Blueprint.Step.singleActions, List.mem_cons, List.not_mem_nil, or_false] at known
    simp only [actionOf, type, fileActionOf, named, target]
    rcases known with rfl | rfl | rfl
    · rfl
    · simp only [changeOf]
      cases s.find <;> cases s.replacement <;> rfl
    · rfl
  | singlePath type named target =>
    simp only [actionOf, type, fileActionOf, named, target]
    rfl

theorem result_checkOf_of_text (vars : Variables) (root title : String) {c : Blueprint.Check}
    (has : c.test = "contains" → c.text ≠ none) :
    ∃ check, (checkOf vars root title c).result = .ok check ∧ ChecksAs vars root c check := by
  by_cases test : c.test = "contains"
  · cases given : c.text with
    | none => exact absurd given (has test)
    | some text =>
      refine ⟨_, ?_, .contains test given⟩
      simp only [checkOf, test, given]
      rfl
  · by_cases test' : c.test = "exists"
    · refine ⟨_, ?_, .exists test'⟩
      simp only [checkOf, test']
      rfl
    · refine ⟨_, ?_, .unknown (by simp [test, test'])⟩
      simp only [checkOf]
      rfl

theorem result_check_of_hasCheck (vars : Variables) (root : String) (has : s.HasCheck) :
    ∃ check, Resolving.result (s.check.mapM (checkOf vars root s.title)) = .ok check ∧
      Option.Rel (ChecksAs vars root) s.check check := by
  cases given : s.check with
  | none => exact ⟨none, rfl, .none⟩
  | some c =>
    obtain ⟨check, result, checks⟩ := result_checkOf_of_text vars root s.title (has c given)
    refine ⟨some check, ?_, .some checks⟩
    rw [Option.mapM_some, ← bind_pure_comp, Resolving.result_bind, result]
    rfl

theorem result_check_of_checkFault {e : Error} (fault : s.CheckFault e) :
    Resolving.result (s.check.mapM (checkOf vars root s.title)) = .error e := by
  obtain ⟨check, test, missing⟩ := fault
  simp only [check, Option.mapM_some, checkOf, test, missing]
  rfl

theorem result_ofStep (vars : Variables) (root : String) (s : Blueprint.Step) :
    (ofStep vars root s).result = (actionOf vars root s).result.bind fun action =>
      (Resolving.result (s.check.mapM (checkOf vars root s.title))).map fun check =>
        ⟨filled vars s.title, s.description.map (filled vars), action, check⟩ := by
  rw [ofStep, Resolving.result_bind]
  congr 1
  funext action
  rw [Resolving.result_bind]
  cases Resolving.result (s.check.mapM (checkOf vars root s.title)) with
  | error e => rfl
  | ok check => cases s.description <;> rfl

theorem result_ofStep_of_ready (vars : Variables) (root : String) (has : s.HasAction) (checked : s.HasCheck) :
    ∃ step, (ofStep vars root s).result = .ok step ∧ step.Says vars root s := by
  obtain ⟨action, acts, action_eq⟩ := result_actionOf_of_hasAction vars root has
  obtain ⟨check, checks, check_eq⟩ := result_check_of_hasCheck vars root checked
  refine ⟨⟨filled vars s.title, s.description.map (filled vars), action, check⟩, ?_,
    ⟨rfl, rfl, action_eq, check_eq⟩⟩
  rw [result_ofStep, acts, checks]
  rfl

theorem result_ofStep_of_actionFault {e : Error} (fault : s.ActionFault e) :
    (ofStep vars root s).result = .error e := by
  rw [result_ofStep, result_actionOf_of_actionFault fault]
  rfl

theorem result_ofStep_of_checkFault {e : Error} (has : s.HasAction) (fault : s.CheckFault e) :
    (ofStep vars root s).result = .error e := by
  obtain ⟨action, acts, -⟩ := result_actionOf_of_hasAction vars root has
  rw [result_ofStep, acts, result_check_of_checkFault fault]
  rfl

/-- The fault that a step is refused for: one of its action before one of its check. -/
theorem ofStep_or (s : Blueprint.Step) :
    s.HasAction ∧ s.HasCheck ∨ ∃ e, (s.ActionFault e ∨ s.HasAction ∧ s.CheckFault e) ∧
      ∀ vars root, (ofStep vars root s).result = .error e := by
  rcases s.hasAction_or_actionFault with has | ⟨e, fault⟩
  · rcases s.hasCheck_or_checkFault with checked | ⟨e, fault⟩
    · exact .inl ⟨has, checked⟩
    · exact .inr ⟨e, .inr ⟨has, fault⟩, fun vars root => result_ofStep_of_checkFault has fault⟩
  · exact .inr ⟨e, .inl fault, fun vars root => result_ofStep_of_actionFault fault⟩

/-- A step can be resolved exactly if the blueprint gives what its action and its check need. If not, the
error is the same with any variables and below any root, and an error of the action comes before one of
the check. A resolved step says in each field what the field of the blueprint comes to, and its paths are
below the root unless they are absolute. -/
theorem ofStep_outcome (s : Blueprint.Step) :
    ((∀ vars root, ∃ step, (ofStep vars root s).result = .ok step) ∨
      ∃ e, ∀ vars root, (ofStep vars root s).result = .error e) ∧
    (∀ vars root, (∃ step, (ofStep vars root s).result = .ok step) ↔ s.HasAction ∧ s.HasCheck) ∧
    (∀ vars root e, (ofStep vars root s).result = .error e ↔
      s.ActionFault e ∨ s.HasAction ∧ s.CheckFault e) ∧
    (∀ vars root step, (ofStep vars root s).result = .ok step → step.Says vars root s) ∧
    ∀ root path, (Path.isAbsolute path = true → Path.join root path = path) ∧
      (Path.isAbsolute path = false → Path.parts (Path.join root path) = Path.parts root ++ Path.parts path) := by
  have ready {vars : Variables} {root : String} {step : ResolvedStep}
      (ok : (ofStep vars root s).result = .ok step) : s.HasAction ∧ s.HasCheck := by
    rcases ofStep_or s with ready | ⟨e, -, failed⟩
    · exact ready
    · rw [failed] at ok
      cases ok
  refine ⟨?_, ?_, ?_, ?_, ?_⟩
  · rcases ofStep_or s with ⟨has, checked⟩ | ⟨e, -, failed⟩
    · refine .inl fun vars root => ?_
      obtain ⟨step, ok, -⟩ := result_ofStep_of_ready vars root has checked
      exact ⟨step, ok⟩
    · exact .inr ⟨e, failed⟩
  · refine fun vars root => ⟨fun ⟨step, ok⟩ => ready ok, fun ⟨has, checked⟩ => ?_⟩
    obtain ⟨step, ok, -⟩ := result_ofStep_of_ready vars root has checked
    exact ⟨step, ok⟩
  · intro vars root e
    constructor
    · intro failed
      rcases ofStep_or s with ⟨has, checked⟩ | ⟨e', fault, failed'⟩
      · obtain ⟨step, ok, -⟩ := result_ofStep_of_ready vars root has checked
        rw [ok] at failed
        cases failed
      · cases failed.symm.trans (failed' vars root)
        exact fault
    · rintro (fault | ⟨has, fault⟩)
      · exact result_ofStep_of_actionFault fault
      · exact result_ofStep_of_checkFault has fault
  · intro vars root step ok
    obtain ⟨has, checked⟩ := ready ok
    obtain ⟨step', ok', stated⟩ := result_ofStep_of_ready vars root has checked
    cases ok.symm.trans ok'
    exact stated
  · exact fun root path => ⟨Path.join_of_isAbsolute root, Path.parts_join root⟩

end ResolvedStep

end Scaffold
