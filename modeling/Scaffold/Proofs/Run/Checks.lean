import Scaffold.Proofs.Files.Making
import Scaffold.Proofs.Files.Rewriting
import Scaffold.Proofs.Run.Editing
import Scaffold.Proofs.Run.Rerun
import Scaffold.Proofs.Shell.Dialogue

/-! Checks after steps. A check looks at what the action of its step has left and changes nothing of it, and
it is not made when the action fails. Each of its failures says something else about the tree. -/
namespace Scaffold

namespace Files

open FileTree

variable {t u : FileTree} {here q : Location} {path text : String}

/-- A path leads to an entry. -/
def Present (t : FileTree) (here : Location) (path : String) : Prop :=
  ∃ q, locate t here path = .ok q ∧ t.find? q ≠ none

/-- A path leads to a file with this text. -/
def Reads (t : FileTree) (here : Location) (path text : String) : Prop :=
  ∃ q isProgram, locate t here path = .ok q ∧ t.find? q = some (.file text.toUTF8 isProgram)

theorem fromUTF8?_toUTF8 (s : String) : String.fromUTF8? s.toUTF8 = some s := by
  unfold String.fromUTF8?
  rw [String.toUTF8_eq_toByteArray, dif_pos s.isValidUTF8]
  rfl

theorem readText_eq_ok_iff : readText t here path = .ok text ↔ Reads t here path text := by
  refine ⟨exists_file_of_readText, fun ⟨q, isProgram, located, found⟩ => ?_⟩
  rw [readText, read, located, ok_bind, found]
  dsimp only
  rw [show (pure text.toUTF8 : Except SystemFault ByteArray) = .ok text.toUTF8 from rfl, ok_bind,
    fromUTF8?_toUTF8]
  rfl

theorem Reads.unique {content : String} (reads : Reads t here path text) (other : Reads t here path content) :
    text = content :=
  Except.ok.inj ((readText_eq_ok_iff.mpr reads).symm.trans (readText_eq_ok_iff.mpr other))

theorem Reads.readText_ne_error (reads : Reads t here path text) (f : SystemFault) :
    readText t here path ≠ .error f := by
  rw [readText_eq_ok_iff.mpr reads]
  nofun

/-- The path to which a text has been written leads to a file with it. -/
theorem reads_of_write (wrote : (write here path text.toUTF8).run t = (.ok (), u)) : Reads u here path text := by
  obtain ⟨q, writes, rfl⟩ := writable_of_write wrote
  obtain ⟨n, few, way⟩ := writable_eq_ok_iff_writes.mp writes
  obtain ⟨isProgram, found, -⟩ := entries_putBytes way.place_ne_nil text.toUTF8
  have again := way.mono (.putBytes way.place_ne_nil way.free text.toUTF8) found
  exact ⟨q, isProgram, locate_of_writable (again.writableWithin_eq few) found, found⟩

end Files

open Files Run

namespace StepCheck

/-- What a check asks of a tree. -/
def Holds (t : FileTree) (here : Location) : StepCheck → Prop
  | .exists path => Present t here path
  | .contains path text => ∃ content, Reads t here path content ∧ text.toList <:+: content.toList
  | .unknown _ => True

/-- How a check fails in a tree. -/
inductive Fails (t : FileTree) (here : Location) : StepCheck → Error → Prop
  | missing {path : String} (nothing : ¬ Present t here path) : Fails t here (.exists path) (.checkMissing path)
  | unreadable {path text : String} {f : SystemFault} (unread : readText t here path = .error f) :
    Fails t here (.contains path text) (.checkUnreadable path f)
  | lacking {path text content : String} (found : Reads t here path content)
    (lacks : ¬ text.toList <:+: content.toList) : Fails t here (.contains path text) (.checkLacksText path text)

/-- What is shown when a check holds. -/
def shown : StepCheck → Transcript
  | .unknown test => [.said .warning s!"Unknown validation test '{test}', skipping"]
  | _ => []

variable {t : FileTree} {here : Location} {c : StepCheck} {e e' : Error} {path text : String}

theorem Fails.not_holds (fails : c.Fails t here e) : ¬ c.Holds t here := by
  cases fails with
  | missing nothing => exact nothing
  | unreadable unread =>
    rintro ⟨content, found, -⟩
    exact found.readText_ne_error _ unread
  | lacking found lacks =>
    rintro ⟨content, found', inside⟩
    exact lacks (found.unique found' ▸ inside)

theorem Fails.unique (fails : c.Fails t here e) (other : c.Fails t here e') : e = e' := by
  cases fails with
  | missing => cases other with | missing => rfl
  | unreadable unread =>
    cases other with
    | unreadable unread' => rw [Except.error.inj (unread.symm.trans unread')]
    | lacking found => exact absurd unread (found.readText_ne_error _)
  | lacking found =>
    cases other with
    | unreadable unread => exact absurd unread (found.readText_ne_error _)
    | lacking => rfl

theorem fails_missing_iff :
    c.Fails t here (.checkMissing path) ↔ c = .exists path ∧ ¬ Present t here path := by
  constructor
  · intro fails
    cases fails with
    | missing nothing => exact ⟨rfl, nothing⟩
  · rintro ⟨rfl, nothing⟩
    exact .missing nothing

theorem fails_unreadable_iff : (∃ f, c.Fails t here (.checkUnreadable path f)) ↔
    ∃ text, c = .contains path text ∧ ∀ content, ¬ Reads t here path content := by
  constructor
  · rintro ⟨f, fails⟩
    cases fails with
    | @unreadable _ text _ unread => exact ⟨text, rfl, fun content found => found.readText_ne_error _ unread⟩
  · rintro ⟨text, rfl, unreadable⟩
    cases unread : readText t here path with
    | error f => exact ⟨f, .unreadable unread⟩
    | ok content => exact absurd (readText_eq_ok_iff.mp unread) (unreadable content)

theorem fails_lacking_iff : c.Fails t here (.checkLacksText path text) ↔
    c = .contains path text ∧ ∃ content, Reads t here path content ∧ ¬ text.toList <:+: content.toList := by
  constructor
  · intro fails
    cases fails with
    | lacking found lacks => exact ⟨rfl, _, found, lacks⟩
  · rintro ⟨rfl, content, found, lacks⟩
    exact .lacking found lacks

theorem Fails.cases (fails : c.Fails t here e) : (∃ path, e = .checkMissing path) ∨
    (∃ path f, e = .checkUnreadable path f) ∨ ∃ path text, e = .checkLacksText path text := by
  cases fails with
  | missing => exact .inl ⟨_, rfl⟩
  | unreadable => exact .inr (.inl ⟨_, _, rfl⟩)
  | lacking => exact .inr (.inr ⟨_, _, rfl⟩)

end StepCheck

/-! Creating a file and looking for a text in it. -/

namespace FileAction

variable {w w' : World} {path content : String}

/-- A file that is found in the place of the one to be created is not kept. -/
def Replaces (path : String) (w : World) : Prop :=
  ∀ w₁, (ensureParent path).outcome w = (.ok (), w₁) → has w₁.files w₁.directory path = true →
    chosen w₁.respondent path ≠ .ok .skip

theorem replaces_of_chosen (chose : chosen w.respondent path ≠ .ok .skip) : Replaces path w := by
  intro w₁ made _
  obtain ⟨g, rfl, -⟩ := ensureParent_again made
  exact chose

/-- The directories that are made on the way of a path that never goes back are no end of it. -/
theorem replaces_of_absent (rooted : w.files.Rooted) (forward : ".." ∉ Path.parts path)
    (absent : ¬ Present w.files w.directory path) : Replaces path w := by
  intro w₁ made present
  refine absurd (has_eq_true_iff.mp ?_) absent
  unfold ensureParent at made
  split at made
  · next parent found =>
    split at made
    · next filled =>
      obtain ⟨g, laid, rfl⟩ := outcome_onFiles_ok made
      have added : AddsAt w.directory (Path.Above · parent) w.files
          ((Files.makeDirectories w.directory parent).run w.files).2 := addsAt_makeAncestors ..
      rw [laid] at added
      exact added.has_of_has rooted found (by simpa using filled) forward present
    · cases made
      exact present
  · cases made
    exact present

theorem directory_backUp {r : Except Error Unit} (done : (backUp path).outcome w = (r, w')) :
    w'.directory = w.directory := by
  rcases copied : (copy w.directory path (Edit.backupPath path (w.clock 0))).run w.files with ⟨s, u⟩
  rw [backUp, outcome_bind, outcome_now] at done
  dsimp only at done
  rw [outcome_bind, outcome_onFiles_of_run (w := w.ticked) copied] at done
  cases s <;> cases done <;> rfl

/-- A file that is created has been written in the end. -/
theorem writeText_of_createFile (replaces : Replaces path w)
    (done : (createFile path content).outcome w = (.ok (), w')) :
    ∃ v : World, v.directory = w.directory ∧ (writeText path content).outcome v = (.ok (), w') := by
  obtain ⟨_, w₁, made, -⟩ := bind_eq_ok done
  have chose := replaces w₁ made
  obtain ⟨g, rfl, -⟩ := ensureParent_again made
  rw [createFile_after made] at done
  split at done
  · next present =>
    obtain ⟨v, -, here, -, ⟨e, failed, -⟩ | ⟨choice, chosen, done⟩⟩ := askConflict_bind_cases done
    · cases failed
    cases choice with
    | overwrite => exact ⟨v, here, done⟩
    | skip => exact absurd chosen (chose present)
    | backup =>
      obtain ⟨_, v', saved, done⟩ := bind_eq_ok done
      exact ⟨v', (directory_backUp saved).trans here, done⟩
  · exact ⟨w.withFiles g, rfl, done⟩

theorem reads_of_createFile (replaces : Replaces path w)
    (done : (createFile path content).outcome w = (.ok (), w')) : Reads w'.files w'.directory path content := by
  obtain ⟨v, here, written⟩ := writeText_of_createFile replaces done
  obtain ⟨u, wrote, rfl⟩ := outcome_onFiles_ok written
  exact reads_of_write wrote

end FileAction

namespace Run

/-- A check that does not hold fails and does nothing else. -/
theorem outcome_check (c : StepCheck) (w : World) :
    (c.Holds w.files w.directory ∧ (check c).outcome w = (.ok (), w.append c.shown)) ∨
      ∃ e, c.Fails w.files w.directory e ∧ (check c).outcome w = (.error e, w) := by
  cases c with
  | «exists» path =>
    rw [check, outcome_files_bind, outcome_directory_bind]
    cases present : has w.files w.directory path with
    | true => exact .inl ⟨has_eq_true_iff.mp present, Prod.ext rfl w.append_nil.symm⟩
    | false =>
      refine .inr ⟨_, .missing fun there => ?_, rfl⟩
      rw [has_eq_true_iff.mpr there] at present
      cases present
  | contains path text =>
    rw [check, outcome_files_bind, outcome_directory_bind]
    cases known : readText w.files w.directory path with
    | error f => exact .inr ⟨_, .unreadable known, rfl⟩
    | ok content =>
      have found := readText_eq_ok_iff.mp known
      dsimp only
      by_cases inside : text.toList <:+: content.toList
      · refine .inl ⟨⟨content, found, inside⟩, ?_⟩
        rw [Text.contains_eq, decide_eq_true inside]
        exact Prod.ext rfl w.append_nil.symm
      · refine .inr ⟨_, .lacking found inside, ?_⟩
        rw [Text.contains_eq, decide_eq_false inside]
        rfl
  | unknown test => exact .inl ⟨trivial, rfl⟩

section Steps

variable {root : String} {shell : Shell} {s : ResolvedStep} {w left : World}

theorem outcome_executeStep_of_error {e : Error} (failed : (takeAction shell s.action).outcome w = (.error e, left)) :
    (executeStep ⟨root, false, shell⟩ s).outcome w = (.error e, left) := by
  rw [executeStep, if_neg Bool.false_ne_true, outcome_bind, failed]

theorem executeStep_cases {code : Option Nat} (acted : (takeAction shell s.action).outcome w = (.ok code, left)) :
    ((∀ c, s.check = some c → c.Holds left.files left.directory) ∧
      (executeStep ⟨root, false, shell⟩ s).outcome w =
        (.ok ⟨s.title, code, none⟩, left.append (s.check.toList.flatMap StepCheck.shown))) ∨
    ∃ c e, s.check = some c ∧ c.Fails left.files left.directory e ∧
      (executeStep ⟨root, false, shell⟩ s).outcome w = (.error e, left) := by
  cases asked : s.check with
  | none =>
    refine .inl ⟨nofun, ?_⟩
    rw [executeStep, if_neg Bool.false_ne_true, outcome_bind, acted, asked]
    exact Prod.ext rfl left.append_nil.symm
  | some c =>
    have after : (executeStep ⟨root, false, shell⟩ s).outcome w =
        (check c >>= fun _ => pure ⟨s.title, code, none⟩ : Run StepResult).outcome left := by
      rw [executeStep, if_neg Bool.false_ne_true, outcome_bind, acted, asked]
      rfl
    rw [after]
    rcases outcome_check c left with ⟨holds, passed⟩ | ⟨e, fails, stopped⟩
    · refine .inl ⟨fun c' same => Option.some.inj same ▸ holds, ?_⟩
      rw [outcome_bind, passed]
      exact Prod.ext rfl (by simp)
    · refine .inr ⟨c, e, rfl, fails, ?_⟩
      rw [outcome_bind, stopped]

/-- A step leaves everything as its action does, and shows no more than its check. -/
theorem executeStep_leaves {code : Option Nat} (acted : (takeAction shell s.action).outcome w = (.ok code, left)) :
    let result := (executeStep ⟨root, false, shell⟩ s).outcome w
    result.2.files = left.files ∧
    (∀ done, result.1 = .ok done →
      done = ⟨s.title, code, none⟩ ∧ result.2 = left.append (s.check.toList.flatMap StepCheck.shown)) ∧
    ∀ e, result.1 = .error e → result.2 = left := by
  intro result
  rcases executeStep_cases acted with ⟨-, passed⟩ | ⟨_, _, _, _, stopped⟩
  · rw [show result = _ from passed]
    exact ⟨rfl, fun done succeeds => ⟨(Except.ok.inj succeeds).symm, rfl⟩, nofun⟩
  · rw [show result = _ from stopped]
    exact ⟨rfl, nofun, fun _ _ => rfl⟩

theorem executeStep_eq_error_iff {code : Option Nat} {e : Error}
    (acted : (takeAction shell s.action).outcome w = (.ok code, left)) :
    ((executeStep ⟨root, false, shell⟩ s).outcome w).1 = .error e ↔
      ∃ c, s.check = some c ∧ c.Fails left.files left.directory e := by
  rcases executeStep_cases acted with ⟨holds, passed⟩ | ⟨c, e', asked, fails, stopped⟩
  · rw [passed]
    exact ⟨nofun, fun ⟨c, asked, fails⟩ => absurd (holds c asked) fails.not_holds⟩
  · rw [stopped]
    constructor
    · intro same
      exact ⟨c, asked, Except.error.inj same ▸ fails⟩
    · rintro ⟨c', asked', fails'⟩
      obtain rfl := Option.some.inj (asked.symm.trans asked')
      rw [fails.unique fails']

/-- After a success the check, if there is one, is all that counts. -/
theorem executeStep_succeeds_iff {code : Option Nat}
    (acted : (takeAction shell s.action).outcome w = (.ok code, left)) :
    (∃ done, ((executeStep ⟨root, false, shell⟩ s).outcome w).1 = .ok done) ↔
      ∀ c, s.check = some c → c.Holds left.files left.directory := by
  rcases executeStep_cases acted with ⟨holds, passed⟩ | ⟨c, e, asked, fails, stopped⟩
  · rw [passed]
    exact ⟨fun _ => holds, fun _ => ⟨_, rfl⟩⟩
  · rw [stopped]
    exact ⟨nofun, fun holds => absurd (holds c asked) fails.not_holds⟩

theorem executeStep_missing_iff {code : Option Nat} {path : String}
    (acted : (takeAction shell s.action).outcome w = (.ok code, left)) :
    ((executeStep ⟨root, false, shell⟩ s).outcome w).1 = .error (.checkMissing path) ↔
      s.check = some (.exists path) ∧ ¬ Present left.files left.directory path := by
  rw [executeStep_eq_error_iff acted]
  simp only [StepCheck.fails_missing_iff]
  exact ⟨fun ⟨_, asked, same, nothing⟩ => ⟨same ▸ asked, nothing⟩,
    fun ⟨asked, nothing⟩ => ⟨_, asked, rfl, nothing⟩⟩

theorem executeStep_unreadable_iff {code : Option Nat} {path : String}
    (acted : (takeAction shell s.action).outcome w = (.ok code, left)) :
    (∃ f, ((executeStep ⟨root, false, shell⟩ s).outcome w).1 = .error (.checkUnreadable path f)) ↔
      ∃ text, s.check = some (.contains path text) ∧
        ∀ content, ¬ Reads left.files left.directory path content := by
  simp only [executeStep_eq_error_iff acted]
  constructor
  · rintro ⟨f, c, asked, fails⟩
    obtain ⟨text, rfl, unreadable⟩ := StepCheck.fails_unreadable_iff.mp ⟨f, fails⟩
    exact ⟨text, asked, unreadable⟩
  · rintro ⟨text, asked, unreadable⟩
    obtain ⟨f, fails⟩ := StepCheck.fails_unreadable_iff.mpr ⟨text, rfl, unreadable⟩
    exact ⟨f, _, asked, fails⟩

theorem executeStep_lacking_iff {code : Option Nat} {path text : String}
    (acted : (takeAction shell s.action).outcome w = (.ok code, left)) :
    ((executeStep ⟨root, false, shell⟩ s).outcome w).1 = .error (.checkLacksText path text) ↔
      s.check = some (.contains path text) ∧
        ∃ content, Reads left.files left.directory path content ∧ ¬ text.toList <:+: content.toList := by
  rw [executeStep_eq_error_iff acted]
  simp only [StepCheck.fails_lacking_iff]
  exact ⟨fun ⟨_, asked, same, lacks⟩ => ⟨same ▸ asked, lacks⟩, fun ⟨asked, lacks⟩ => ⟨_, asked, rfl, lacks⟩⟩

theorem createFile_of_takeAction {path content : String} {code : Option Nat}
    (acted : (takeAction shell (.file (.create path content))).outcome w = (.ok code, left)) :
    (FileAction.createFile path content).outcome w = (.ok (), left) := by
  rw [outcome_takeAction_file, FileAction.take] at acted
  rcases created : (FileAction.createFile path content).outcome w with ⟨e | _, w'⟩
  · rw [created] at acted
    cases acted
  · rw [created] at acted
    cases acted
    rfl

/-- Where a text has been read, a check for another one looks for it in that text. -/
theorem executeStep_of_reads {path content text : String} {code : Option Nat}
    (acted : (takeAction shell s.action).outcome w = (.ok code, left)) (asked : s.check = some (.contains path text))
    (reads : Reads left.files left.directory path content) :
    (∃ done, ((executeStep ⟨root, false, shell⟩ s).outcome w).1 = .ok done) ↔
      text.toList <:+: content.toList := by
  refine (executeStep_succeeds_iff acted).trans ⟨fun holds => ?_, fun inside c same => ?_⟩
  · obtain ⟨content', reads', inside⟩ := holds _ asked
    exact reads.unique reads' ▸ inside
  · obtain rfl := Option.some.inj (asked.symm.trans same)
    exact ⟨content, reads, inside⟩

end Steps

/-- Outside a dry run a step succeeds just when its action succeeds and its check, if it has one, holds in the
tree that the action has left. A failure of the action is the failure of the step, which is not checked then;
a check changes no files, and when it fails everything is as the action has left it. An entry is missing just
when nothing is at its path, a text cannot be read just when no file of UTF-8 text is there, and it is lacking
just when it does not occur in such a file; a test that is not known raises a warning only. After the creation
of a file that keeps no other one, the check for a text at the same path holds just when the content of the
step has that text. The file found there is not kept if the operator does not say so, or if there is none and
the path never goes back. -/
theorem executeStep_outcome (root : String) (shell : Shell) (w : World) :
    let settings : Settings := ⟨root, false, shell⟩
    (∀ s : ResolvedStep,
      let taken := (takeAction shell s.action).outcome w
      let left := taken.2
      let result := (executeStep settings s).outcome w
      ((∃ done, result.1 = .ok done) ↔ (∃ code, taken.1 = .ok code) ∧
        ∀ c, s.check = some c → c.Holds left.files left.directory) ∧
      result.2.files = left.files ∧
      (∀ done, result.1 = .ok done → taken.1 = .ok done.code ∧ done = ⟨s.title, done.code, none⟩ ∧
        result.2 = left.append (s.check.toList.flatMap StepCheck.shown)) ∧
      (∀ e, result.1 = .error e → result.2 = left) ∧
      (∀ e, taken.1 = .error e → result = (.error e, left)) ∧
      ∀ code, taken.1 = .ok code →
        (∀ e, result.1 = .error e → (∃ path, e = .checkMissing path) ∨ (∃ path f, e = .checkUnreadable path f) ∨
          ∃ path text, e = .checkLacksText path text) ∧
        (∀ path, result.1 = .error (.checkMissing path) ↔
          s.check = some (.exists path) ∧ ¬ Present left.files left.directory path) ∧
        (∀ path, (∃ f, result.1 = .error (.checkUnreadable path f)) ↔
          ∃ text, s.check = some (.contains path text) ∧
            ∀ content, ¬ Reads left.files left.directory path content) ∧
        ∀ path text, result.1 = .error (.checkLacksText path text) ↔
          s.check = some (.contains path text) ∧
            ∃ content, Reads left.files left.directory path content ∧ ¬ text.toList <:+: content.toList) ∧
    (∀ title description path content text left,
      (takeAction shell (.file (.create path content))).outcome w = (.ok none, left) →
      FileAction.Replaces path w →
      let s : ResolvedStep := ⟨title, description, .file (.create path content), some (.contains path text)⟩
      ((∃ done, ((executeStep settings s).outcome w).1 = .ok done) ↔ text.toList <:+: content.toList)) ∧
    ∀ path,
      (FileAction.chosen w.respondent path ≠ .ok .skip → FileAction.Replaces path w) ∧
      (w.files.Rooted → ".." ∉ Path.parts path → ¬ Present w.files w.directory path →
        FileAction.Replaces path w) := by
  intro settings
  refine ⟨fun s => ?_, ?_, fun path => ⟨FileAction.replaces_of_chosen, FileAction.replaces_of_absent⟩⟩
  · intro taken left result
    rcases acted : taken.1 with e | code
    · have stopped : result = (.error e, left) := outcome_executeStep_of_error (Prod.ext acted rfl)
      rw [stopped]
      refine ⟨⟨nofun, nofun⟩, rfl, nofun, fun _ _ => rfl, fun e' same => ?_, nofun⟩
      rw [Except.error.inj same]
    · have succeeded : (takeAction shell s.action).outcome w = (.ok code, left) := Prod.ext acted rfl
      obtain ⟨files, passed, stopped⟩ := executeStep_leaves succeeded
      refine ⟨(executeStep_succeeds_iff succeeded).trans ⟨fun holds => ⟨⟨code, rfl⟩, holds⟩, And.right⟩,
        files, fun done succeeds => ?_, stopped, nofun, fun _ _ => ⟨fun e failed => ?_,
          fun path => executeStep_missing_iff succeeded, fun path => executeStep_unreadable_iff succeeded,
          fun path text => executeStep_lacking_iff succeeded⟩⟩
      · obtain ⟨rfl, same⟩ := passed done succeeds
        exact ⟨rfl, rfl, same⟩
      · obtain ⟨c, -, fails⟩ := (executeStep_eq_error_iff succeeded).mp failed
        exact fails.cases
  · intro title description path content text left acted replaces s
    have reads := FileAction.reads_of_createFile replaces (createFile_of_takeAction acted)
    exact executeStep_of_reads acted rfl reads

/-- A file may be found, and kept, at the end of a path that goes back from a directory which is made on its
way. Before the step the path has led nowhere, and what is found in the file is none of the step's content. -/
theorem kept_file_passes_check :
    let w : World := ⟨⟨FileTree.empty.put ["README.md"] (.file "mine".toUTF8 false), [], .typed []⟩, [],
      fun _ => 0, FileAction.always "skip", []⟩
    let shell : Shell := fun _ here => ⟨some 0, "", [], here⟩
    let s : ResolvedStep := ⟨"Write", none, .file (.create "./new/../README.md" "yours"),
      some (.contains "./new/../README.md" "mine")⟩
    ¬ Present w.files w.directory "./new/../README.md" ∧
    ((takeAction shell s.action).outcome w).1 = .ok none ∧
    ((executeStep ⟨".", false, shell⟩ s).outcome w).1 = .ok ⟨"Write", none, none⟩ ∧
    ¬ "mine".toList <:+: "yours".toList := by
  intro w shell s
  refine ⟨fun present => ?_, ?_, ?_, by decide⟩
  · have absent : has w.files w.directory "./new/../README.md" = false := by decide +kernel
    rw [has_eq_true_iff.mpr present] at absent
    cases absent
  · decide +kernel
  · decide +kernel

end Run

end Scaffold
