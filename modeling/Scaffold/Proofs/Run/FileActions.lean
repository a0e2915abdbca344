import Scaffold.Proofs.Files.Changes
import Scaffold.Proofs.Run.Action

/-! What file actions do to a tree of directories and files. Each first makes the directories on the
way of its path; then it fails and changes nothing more, or it does all that it is for. -/
namespace Scaffold

open Files Run

namespace World

abbrev files (w : World) : FileTree := w.surroundings.files

/-- A world with other files. -/
def withFiles (w : World) (t : FileTree) : World :=
  { w with surroundings := { w.surroundings with files := t } }

/-- A world in which someone else answers. -/
def answeredBy (w : World) (r : Respondent) : World := { w with respondent := r }

@[simp] theorem directory_withFiles (w : World) (t : FileTree) :
    (w.withFiles t).directory = w.directory := rfl

@[simp] theorem respondent_withFiles (w : World) (t : FileTree) :
    (w.withFiles t).respondent = w.respondent := rfl

end World

theorem Run.outcome_files_bind {α : Type} (next : FileTree → Run α) (w : World) :
    (Run.files >>= next).outcome w = (next w.files).outcome w := rfl

theorem Run.outcome_directory_bind {α : Type} (next : Location → Run α) (w : World) :
    (Run.directory >>= next).outcome w = (next w.directory).outcome w := rfl

theorem Run.outcome_onFiles_of_run {failure : SystemFault → Error} {action : Location → Action Unit}
    {w : World} {s : Except SystemFault Unit} {u : FileTree}
    (ran : (action w.directory).run w.files = (s, u)) :
    (onFiles failure action).outcome w = (s.mapError failure, w.withFiles u) := by
  rw [outcome_onFiles, ran]
  rfl

namespace FileTree

/-- A tree is another one with a file of these bytes at a place. -/
def Stores (t u : FileTree) (p : Location) (bytes : ByteArray) : Prop :=
  (∃ isProgram, u.find? p = some (.file bytes isProgram)) ∧ ∀ q, q ≠ p → u.find? q = t.find? q

theorem stores_put (t : FileTree) {p : Location} (inside : p ≠ []) (bytes : ByteArray)
    (isProgram : Bool) : Stores t (t.put p (.file bytes isProgram)) p bytes := by
  refine ⟨⟨isProgram, ?_⟩, fun q other => ?_⟩
  · rw [find?_put t inside, if_pos rfl]
  · rw [find?_put t inside, if_neg other]

end FileTree

namespace FileAction

/-- The path at which an action leaves a file, or from which it takes one away. -/
def target : FileAction → String
  | create path _ | edit path _ _ | delete path => path
  | move _ destination => destination

/-! Directories on the way. -/

/-- A tree is another one with missing directories on the way of a path. -/
structure Prepared (here : Location) (path : String) (t g : FileTree) : Prop where
  proper : g.Proper
  grows : FileTree.Grows (ancestors here path) t g
  kept : Located t here path → g = t

section Actions

variable {w w' : World} {path : String}

theorem ensureParent_cases (proper : w.files.Proper) {r : Except Error Unit}
    (done : (ensureParent path).outcome w = (r, w')) :
    ∃ g, w' = w.withFiles g ∧ Prepared w.directory path w.files g := by
  unfold ensureParent at done
  split at done
  · next parent found =>
    split at done
    · next filled =>
      have filled : parent ≠ "" := by simpa using filled
      cases done
      obtain ⟨proper', grows⟩ := builds_makeDirectories w.directory parent w.files proper
      refine ⟨_, rfl, proper', ancestors_eq_wayTo w.directory found filled ▸ grows, fun located => ?_⟩
      have inside := (isDirectory_iff proper.unlinked).mpr (located.above found filled)
      exact congrArg Prod.snd
        (run_makeDirectories_of_isDirectory w.directory inside)
    · cases done
      exact ⟨w.files, rfl, proper, .refl _ _, fun _ => rfl⟩
  · cases done
    exact ⟨w.files, rfl, proper, .refl _ _, fun _ => rfl⟩

theorem ensureParent_answeredBy (r : Respondent) : (ensureParent path).outcome (w.answeredBy r) =
    (((ensureParent path).outcome w).1, ((ensureParent path).outcome w).2.answeredBy r) := by
  unfold ensureParent
  split
  · split <;> rfl
  · rfl

/-- If an action fails to make the directories on its way it ends, and otherwise it goes on with them. -/
theorem after_ensureParent (proper : w.files.Proper) {next : Run Unit} {r : Except Error Unit}
    {effect : FileTree → Prop}
    (done : (ensureParent path >>= fun _ => next).outcome w = (r, w'))
    (later : ∀ g, Prepared w.directory path w.files g →
      (ensureParent path).outcome w = (.ok (), w.withFiles g) →
      next.outcome (w.withFiles g) = (r, w') →
      (∃ e, r = .error e ∧ w'.files = g) ∨ r = .ok () ∧ effect g) :
    ∃ g, Prepared w.directory path w.files g ∧
      ((∃ e, r = .error e ∧ w'.files = g) ∨ r = .ok () ∧ effect g) := by
  rw [outcome_bind] at done
  rcases made : (ensureParent path).outcome w with ⟨e | _, v⟩
  · obtain ⟨g, rfl, prepared⟩ := ensureParent_cases proper made
    rw [made] at done
    cases done
    exact ⟨g, prepared, .inl ⟨e, rfl, rfl⟩⟩
  · obtain ⟨g, rfl, prepared⟩ := ensureParent_cases proper made
    rw [made] at done
    exact ⟨g, prepared, later g prepared made done⟩

/-! Writing and asking. -/

theorem writeText_cases {content : String} (proper : w.files.Proper) {r : Except Error Unit}
    (done : (writeText path content).outcome w = (r, w')) :
    (∃ e, r = .error e ∧ w'.files = w.files) ∨
      r = .ok () ∧ w'.files.Proper ∧
        w.files.Stores w'.files (place w.directory path) content.toUTF8 ∧
        (∃ front name, Aimed w.files w.directory path front name) ∧
        Path.endsInSlash path = false ∧ w.files.find? (place w.directory path) ≠ some .directory := by
  rcases wrote : (write w.directory path content.toUTF8).run w.files with ⟨s, u⟩
  rw [writeText, outcome_onFiles_of_run wrote] at done
  cases done
  rcases write_cases proper.unlinked wrote with ⟨f, rfl, rfl⟩ | ⟨rfl, rfl, ⟨front, name, aimed⟩, plain, free⟩
  · exact .inl ⟨_, rfl, rfl⟩
  · exact .inr ⟨rfl, aimed.proper_put proper free _ _, FileTree.stores_put _ aimed.place_ne_nil _ _,
      ⟨front, name, aimed⟩, plain, free⟩

/-- Where a file is found the writing of one does not fail. -/
theorem writeText_of_located {content : String} {bytes : ByteArray} {isProgram : Bool}
    (proper : w.files.Proper) (located : Located w.files w.directory path)
    (found : w.files.find? (place w.directory path) = some (.file bytes isProgram)) :
    ((writeText path content).outcome w).1 = .ok () := by
  rw [writeText, outcome_onFiles_of_run (run_write_of_located proper located found)]
  rfl

/-- What a respondent chooses to happen to an existing file. -/
def chosen (r : Respondent) (path : String) : Except Error ConflictChoice := do
  let answer ← (r.ask (ConflictChoice.question path)).1
  ConflictChoice.ofText answer.display

/-- A respondent who chooses the same for every file. -/
def always (choice : String) : Respondent :=
  .script ⟨(∅ : Std.ExtTreeMap String String).insert ConflictChoice.promptKey choice, ∅⟩

theorem chosen_always (choice path : String) :
    chosen (always choice) path = ConflictChoice.ofText choice := by
  have answered : ((always choice).ask (ConflictChoice.question path)).1 = .ok (.text choice) := by
    simp only [always, Respondent.ask, Script.take, ConflictChoice.question,
      Std.ExtTreeMap.getElem?_empty, Std.ExtTreeMap.getElem?_insert_self]
    rfl
  rw [chosen, answered]
  simp only [bind, Except.bind, Answer.display]

theorem chosen_backup (path : String) : chosen (always "backup") path = .ok .backup := by
  have known : Text.lowercase (Text.trimmed "backup") = "backup" := by decide +kernel
  rw [chosen_always, ConflictChoice.ofText, known]
  rfl

theorem outcome_askConflict (w : World) (path : String) : (askConflict path).outcome w =
    (chosen w.respondent path, ((ask (ConflictChoice.question path)).outcome w).2) := by
  rw [askConflict, chosen, outcome_bind]
  generalize ConflictChoice.question path = q
  have answered : ((ask q).outcome w).1 = (w.respondent.ask q).1 := by rw [outcome_ask]
  rw [← answered]
  rcases (ask q).outcome w with ⟨e | answer, v⟩
  · rfl
  · simp only [outcome_liftM, bind, Except.bind]

/-- Asking changes neither the files nor the clock. -/
theorem askConflict_bind_cases {next : ConflictChoice → Run Unit} {r : Except Error Unit}
    (done : (askConflict path >>= next).outcome w = (r, w')) :
    ∃ v : World, v.files = w.files ∧ v.directory = w.directory ∧ v.clock = w.clock ∧
      ((∃ e, r = .error e ∧ w' = v) ∨
        ∃ choice, chosen w.respondent path = .ok choice ∧ (next choice).outcome v = (r, w')) := by
  rw [outcome_bind, outcome_askConflict] at done
  refine ⟨((ask (ConflictChoice.question path)).outcome w).2, ?_, ?_, ?_, ?_⟩
  · rw [outcome_ask]
  · rw [outcome_ask]
  · rw [outcome_ask]
  · cases decided : chosen w.respondent path with
    | error e =>
      rw [decided] at done
      cases done
      exact .inl ⟨e, rfl, rfl⟩
    | ok choice =>
      rw [decided] at done
      exact .inr ⟨choice, rfl, done⟩

/-- The place where an existing file is backed up. -/
def backupPlace (w : World) (path : String) : Location :=
  place w.directory (Edit.backupPath path (w.clock 0))

theorem backupPlace_ne {t : FileTree} {front front' : List String} {name name' : String}
    (aimed : Aimed t w.directory path front name) (plain : Path.endsInSlash path = false)
    (aimed' : Aimed t w.directory (Edit.backupPath path (w.clock 0)) front' name') :
    backupPlace w path ≠ place w.directory path := by
  have longer : Edit.backupPath path (w.clock 0) = path ++ (".backup." ++ (w.clock 0).repr) :=
    String.append_assoc
  have undivided : '/' ∉ (".backup." ++ (w.clock 0).repr).toList := by
    rw [String.toList_append, List.mem_append, Nat.toList_repr, not_or]
    refine ⟨by decide, fun member => ?_⟩
    exact absurd (Nat.isDigit_of_mem_toDigits (by decide) (by decide) member) (by decide)
  rw [backupPlace, longer]
  rw [longer] at aimed'
  refine aimed.place_append_ne plain undivided (fun empty => ?_) aimed'
  have letters := congrArg String.length empty
  rw [String.length_append] at letters
  exact absurd letters (by simp)

theorem backUp_cases (proper : w.files.Proper) {r : Except Error Unit}
    (done : (backUp path).outcome w = (r, w')) :
    (∃ e, r = .error e ∧ w'.files = w.files) ∨
      r = .ok () ∧ w'.directory = w.directory ∧ w'.files.Proper ∧
        ∃ bytes isProgram, Located w.files w.directory path ∧
          w.files.find? (place w.directory path) = some (.file bytes isProgram) ∧
          w.files.find? (backupPlace w path) ≠ some .directory ∧
          backupPlace w path ≠ place w.directory path ∧
          FileTree.Extends w.files w'.files ∧
          w.files.Stores w'.files (backupPlace w path) bytes := by
  rcases copied : (copy w.directory path (Edit.backupPath path (w.clock 0))).run w.files with ⟨s, u⟩
  rw [backUp, outcome_bind, outcome_now] at done
  dsimp only at done
  rw [outcome_bind, outcome_onFiles_of_run (w := w.ticked) copied] at done
  rcases copy_cases proper.unlinked copied with
    ⟨f, rfl, rfl⟩ | ⟨rfl, bytes, isProgram, located, found, rfl, ⟨front', name', aimed'⟩, free⟩
  · cases done
    exact .inl ⟨_, rfl, rfl⟩
  · cases done
    obtain ⟨⟨front, name, aimed⟩, plain⟩ := exists_aimed proper located found
    exact .inr ⟨rfl, rfl, aimed'.proper_put proper free _ _, bytes, isProgram, located, found, free,
      backupPlace_ne aimed plain aimed', .put_file _ aimed'.place_ne_nil free _ _,
      FileTree.stores_put _ aimed'.place_ne_nil _ _⟩

/-- Once a file is backed up, it is written. -/
theorem backUp_writeText_cases {content : String} (proper : w.files.Proper) {r : Except Error Unit}
    (done : (backUp path >>= fun _ => writeText path content).outcome w = (r, w')) :
    (∃ e, r = .error e ∧ w'.files = w.files) ∨
      r = .ok () ∧ w'.files.Proper ∧ ∃ bytes isProgram v,
        w.files.find? (place w.directory path) = some (.file bytes isProgram) ∧
        w.files.find? (backupPlace w path) ≠ some .directory ∧
        backupPlace w path ≠ place w.directory path ∧
        w.files.Stores v (backupPlace w path) bytes ∧
        v.Stores w'.files (place w.directory path) content.toUTF8 := by
  rw [outcome_bind] at done
  rcases saved : (backUp path).outcome w with ⟨s, v⟩
  rw [saved] at done
  rcases backUp_cases proper saved with
    ⟨e, rfl, same⟩ | ⟨rfl, here, proper', bytes, isProgram, located, found, free, apart, more, copied⟩
  · cases done
    exact .inl ⟨e, rfl, same⟩
  · -- The backup has a name of its own, so the file is still where it has been found.
    have found' : v.files.find? (place v.directory path) = some (.file bytes isProgram) := by
      rw [here, copied.2 _ apart.symm, found]
    have wrote : ((writeText path content).outcome v).1 = .ok () :=
      writeText_of_located proper' (here ▸ located.mono more) found'
    dsimp only at done
    rw [done] at wrote
    rcases writeText_cases proper' done with ⟨e, failed, -⟩ | ⟨rfl, proper'', stored, -⟩
    · rw [failed] at wrote
      cases wrote
    · exact .inr ⟨rfl, proper'', bytes, isProgram, v.files, found, free, apart, copied, here ▸ stored⟩

/-! Creating. -/

/-- What creating a file makes of a tree that has the directories on its way. Where nothing is, the same
happens whoever answers, and nothing but the tree is changed. -/
inductive Created (w : World) (path content : String) (g u : FileTree) : Prop
  | new (absent : has g w.directory path = false) (vacant : g.find? (place w.directory path) = none)
      (unasked : ∀ r, (createFile path content).outcome (w.answeredBy r) =
        (.ok (), (w.withFiles u).answeredBy r))
      (stored : g.Stores u (place w.directory path) content.toUTF8)
  | kept (present : has g w.directory path = true) (skip : chosen w.respondent path = .ok .skip)
      (same : u = g)
  | overwritten (present : has g w.directory path = true)
      (overwrite : chosen w.respondent path = .ok .overwrite)
      (stored : g.Stores u (place w.directory path) content.toUTF8)
  | backedUp {bytes : ByteArray} {isProgram : Bool} {v : FileTree}
      (present : has g w.directory path = true) (backup : chosen w.respondent path = .ok .backup)
      (old : g.find? (place w.directory path) = some (.file bytes isProgram))
      (free : g.find? (backupPlace w path) ≠ some .directory)
      (apart : backupPlace w path ≠ place w.directory path)
      (copied : g.Stores v (backupPlace w path) bytes)
      (stored : v.Stores u (place w.directory path) content.toUTF8)

/-- Nobody is asked about a file that is new. -/
theorem createFile_of_absent {content : String} {g : FileTree}
    (made : (ensureParent path).outcome w = (.ok (), w.withFiles g))
    (absent : has g w.directory path = false) :
    (createFile path content).outcome w = (writeText path content).outcome (w.withFiles g) := by
  rw [createFile, outcome_bind, made]
  dsimp only
  rw [outcome_files_bind, outcome_directory_bind, if_neg]
  exact absent ▸ Bool.false_ne_true

theorem created_of_absent {content : String} {g : FileTree} (proper : g.Proper)
    (made : (ensureParent path).outcome w = (.ok (), w.withFiles g))
    (absent : has g w.directory path = false) {r : Except Error Unit}
    (done : (writeText path content).outcome (w.withFiles g) = (r, w')) :
    (∃ e, r = .error e ∧ w'.files = g) ∨
      r = .ok () ∧ w'.files.Proper ∧ Created w path content g w'.files := by
  have world : w' = w.withFiles w'.files := by
    cases done
    rfl
  rcases writeText_cases (w := w.withFiles g) proper done with
    ⟨e, rfl, same⟩ | ⟨rfl, proper', stored, ⟨_, _, aimed⟩, plain, -⟩
  · exact .inl ⟨e, rfl, same⟩
  have vacant := aimed.find?_eq_none plain proper.unlinked absent
  refine .inr ⟨rfl, proper', .new absent vacant (fun r => ?_) stored⟩
  -- Neither of the two steps looks at who would answer.
  have made' : (ensureParent path).outcome (w.answeredBy r) =
      (.ok (), (w.answeredBy r).withFiles g) := by
    rw [ensureParent_answeredBy, made]
    rfl
  have alike : (writeText path content).outcome ((w.answeredBy r).withFiles g) =
      (((writeText path content).outcome (w.withFiles g)).1,
        ((writeText path content).outcome (w.withFiles g)).2.answeredBy r) := rfl
  rw [createFile_of_absent made' absent, alike, done, ← world]

theorem createFile_cases {content : String} (proper : w.files.Proper) {r : Except Error Unit}
    (done : (createFile path content).outcome w = (r, w')) :
    ∃ g, Prepared w.directory path w.files g ∧
      ((∃ e, r = .error e ∧ w'.files = g) ∨
        r = .ok () ∧ w'.files.Proper ∧ Created w path content g w'.files) := by
  refine after_ensureParent proper done fun g prepared made done => ?_
  rw [outcome_files_bind, outcome_directory_bind] at done
  split at done
  · next present =>
    obtain ⟨v, files, here, clock, ⟨e, rfl, rfl⟩ | ⟨choice, decided, done⟩⟩ := askConflict_bind_cases done
    · exact .inl ⟨e, rfl, files⟩
    obtain rfl : v.files = g := files
    rw [World.directory_withFiles] at here
    cases choice with
    | overwrite =>
      rcases writeText_cases prepared.proper done with ⟨e, rfl, same⟩ | ⟨rfl, proper', stored, -⟩
      · exact .inl ⟨e, rfl, same⟩
      · exact .inr ⟨rfl, proper', .overwritten present decided (here ▸ stored)⟩
    | skip =>
      cases done
      exact .inr ⟨rfl, prepared.proper, .kept present decided rfl⟩
    | backup =>
      have same : backupPlace v path = backupPlace w path := by
        rw [backupPlace, backupPlace, here, clock]
        rfl
      rcases backUp_writeText_cases prepared.proper done with
        ⟨e, rfl, same⟩ | ⟨rfl, proper', bytes, isProgram, u, found, free, apart, copied, stored⟩
      · exact .inl ⟨e, rfl, same⟩
      · rw [here] at found stored
        rw [same] at free copied
        rw [same, here] at apart
        exact .inr ⟨rfl, proper', .backedUp present decided found free apart copied stored⟩
  · next absent => exact created_of_absent prepared.proper made (Bool.eq_false_iff.mpr absent) done

/-! Editing. -/

/-- What editing a file makes of a tree that has the directories on its way. -/
def Edited (here : Location) (path content : String) (change : Option FindReplace)
    (g u : FileTree) : Prop :=
  ∃ old new, HasText g (place here path) old ∧
    (match change with
      | some change => Edit.findReplace old change = .ok new
      | none => new = Edit.fillContent old content) ∧
    g.Stores u (place here path) new.toUTF8

theorem existingText_cases {r : Except Error String}
    (done : (existingText path).outcome w = (r, w')) :
    w'.files = w.files ∧ w'.directory = w.directory ∧
      ((∃ e, r = .error e) ∨ ∃ text, r = .ok text ∧
        (readText w.files w.directory path = .ok text ∨
          readText w.files w.directory path = .error .notFound ∧ text = "")) := by
  rw [existingText, outcome_files_bind, outcome_directory_bind] at done
  split at done
  · next text readable =>
    cases done
    exact ⟨rfl, rfl, .inr ⟨text, rfl, .inl readable⟩⟩
  · next missing =>
    cases done
    exact ⟨rfl, rfl, .inr ⟨"", rfl, .inr ⟨missing, rfl⟩⟩⟩
  · cases done
    exact ⟨rfl, rfl, .inl ⟨_, rfl⟩⟩

theorem editFile_cases {content : String} {change : Option FindReplace} (proper : w.files.Proper)
    {r : Except Error Unit} (done : (editFile path content change).outcome w = (r, w')) :
    ∃ g, Prepared w.directory path w.files g ∧
      ((∃ e, r = .error e ∧ w'.files = g) ∨
        r = .ok () ∧ Edited w.directory path content change g w'.files) := by
  refine after_ensureParent proper done fun g prepared _ done => ?_
  rw [outcome_bind] at done
  rcases looked : (existingText path).outcome (w.withFiles g) with ⟨s, v⟩
  rw [looked] at done
  obtain ⟨files, here, ⟨e, rfl⟩ | ⟨old, rfl, known⟩⟩ := existingText_cases looked
  · cases done
    exact .inl ⟨e, rfl, files⟩
  obtain rfl : v.files = g := files
  dsimp only at done
  rw [outcome_bind, outcome_liftM] at done
  cases made : Edit.edited old content change with
  | error e =>
    rw [made] at done
    cases done
    exact .inl ⟨e, rfl, rfl⟩
  | ok new =>
    rw [made] at done
    rcases writeText_cases prepared.proper done with
      ⟨e, rfl, same⟩ | ⟨rfl, -, stored, ⟨front, name, aimed⟩, plain, free⟩
    · exact .inl ⟨e, rfl, same⟩
    · have text := hasText_of_readText prepared.proper.unlinked aimed plain free
        (by rw [here]; exact known)
      rw [here, World.directory_withFiles] at text stored
      refine .inr ⟨rfl, old, new, text, ?_, stored⟩
      cases change with
      | none =>
        cases made
        rfl
      | some change => exact made

/-! Deleting. -/

/-- What deleting a file makes of a tree that has the directories on its way. -/
def Deleted (here : Location) (path : String) (g u : FileTree) : Prop :=
  has u here path = false ∧
    (has g here path = false ∧ u = g ∨
      (∃ bytes isProgram, g.find? (place here path) = some (.file bytes isProgram)) ∧
        ∀ q, u.find? q = if q = place here path then none else g.find? q)

theorem deleteFile_cases (proper : w.files.Proper) {r : Except Error Unit}
    (done : (deleteFile path).outcome w = (r, w')) :
    ∃ g, Prepared w.directory path w.files g ∧
      ((∃ e, r = .error e ∧ w'.files = g) ∨ r = .ok () ∧ Deleted w.directory path g w'.files) := by
  refine after_ensureParent proper done fun g prepared _ done => ?_
  rcases removed : (removeFile w.directory path).run g with ⟨s, u⟩
  rw [outcome_tryCatch, outcome_onFiles_of_run (w := w.withFiles g) removed] at done
  rcases removeFile_cases prepared.proper.unlinked removed with
    ⟨f, rfl, rfl, missing⟩ | ⟨rfl, rfl, ⟨front, name, aimed⟩, found⟩
  · dsimp only [Except.mapError] at done
    split at done
    · next same =>
      cases same
      cases done
      exact .inr ⟨rfl, missing rfl, .inl ⟨missing rfl, rfl⟩⟩
    · cases done
      exact .inl ⟨_, rfl, rfl⟩
  · cases done
    have left (q : Location) := g.find?_erase aimed.place_ne_nil q
    have unlinked : (g.erase (place w.directory path)).Unlinked := by
      intro p path'
      rw [left]
      split
      · nofun
      · exact prepared.proper.unlinked p path'
    refine .inr ⟨rfl, ?_, .inr ⟨found, left⟩⟩
    rw [Bool.eq_false_iff]
    intro present
    exact ((has_iff unlinked).mp present).2 ((left _).trans (if_pos rfl))

/-! Moving. -/

/-- What moving the entry of one place to another one makes of a tree. -/
def Moved (a b : Location) (g u : FileTree) : Prop :=
  g.find? a ≠ none ∧ (a = b → u = g) ∧
    (a ≠ b → (∀ rest, u.find? (b ++ rest) = g.find? (a ++ rest)) ∧
      (∀ rest, u.find? (a ++ rest) = none) ∧
      ∀ q, ¬ a <+: q → ¬ b <+: q → u.find? q = g.find? q)

theorem moved_moveAll {t : FileTree} {a b : Location} (inside : a ≠ []) (inside' : b ≠ [])
    (present : t.find? a ≠ none) (apart : ¬ a <+: b) (apart' : ¬ b <+: a) :
    Moved a b t (t.moveAll a b) := by
  refine ⟨present, fun same => absurd (same ▸ List.prefix_refl a) apart, fun _ => ⟨?_, ?_, ?_⟩⟩
  · intro rest
    rw [t.find?_moveAll inside inside', if_pos (List.prefix_append b rest), List.drop_left]
  · intro rest
    have outside : ¬ b <+: a ++ rest := by
      intro below
      rcases List.prefix_or_prefix_of_prefix below (List.prefix_append a rest) with above | above
      · exact apart' above
      · exact apart above
    rw [t.find?_moveAll inside inside', if_neg outside, if_pos (List.prefix_append a rest)]
  · intro q outside outside'
    rw [t.find?_moveAll inside inside', if_neg outside', if_neg outside]

theorem outcome_moveFile_of_missing {source destination : String}
    (missing : has w.files w.directory source = false) :
    (moveFile source destination).outcome w = (.error (.moveSourceMissing source), w) := by
  rw [moveFile, outcome_files_bind, outcome_directory_bind, missing]
  rfl

theorem moveFile_cases {source destination : String} (proper : w.files.Proper)
    (present : has w.files w.directory source = true) {r : Except Error Unit}
    (done : (moveFile source destination).outcome w = (r, w')) :
    ∃ g, Prepared w.directory destination w.files g ∧
      ((∃ e, r = .error e ∧ w'.files = g) ∨
        r = .ok () ∧ Moved (place w.directory source) (place w.directory destination) g w'.files) := by
  rw [moveFile, outcome_files_bind, outcome_directory_bind, present] at done
  refine after_ensureParent proper done fun g prepared _ done => ?_
  rcases renamed : (rename w.directory source destination).run g with ⟨s, u⟩
  rw [outcome_onFiles_of_run (w := w.withFiles g) renamed] at done
  cases done
  rcases rename_cases prepared.proper.unlinked renamed with
    ⟨f, rfl, rfl⟩ | ⟨rfl, ⟨_, _, aimed⟩, ⟨_, _, aimed'⟩, found, ⟨same, rfl⟩ | ⟨apart, apart', rfl⟩⟩
  · exact .inl ⟨_, rfl, rfl⟩
  · exact .inr ⟨rfl, found, fun _ => rfl, fun other => absurd same other⟩
  · exact .inr ⟨rfl, moved_moveAll aimed.place_ne_nil aimed'.place_ne_nil found apart apart'⟩

end Actions

end FileAction

end Scaffold
