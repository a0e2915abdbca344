import Scaffold.Proofs.Run.FileActions

/-! What backups keep. As long as no backup gets the name of another file, everything that a file holds
at some time is still held by a file later. -/
namespace Scaffold

open Files Run

namespace FileTree

/-- There is a file with these bytes. -/
def Holds (t : FileTree) (bytes : ByteArray) : Prop :=
  ∃ p isProgram, t.find? p = some (.file bytes isProgram)

end FileTree

namespace FileAction

/-- Where conflicts are answered by backups, a file stays where it is, or it is backed up. -/
theorem Created.keeps {w : World} {path content : String} {g u : FileTree}
    (created : Created w path content g u) (answered : chosen w.respondent path = .ok .backup)
    (unused : ∀ bytes isProgram, g.find? (backupPlace w path) ≠ some (.file bytes isProgram))
    {p : Location} {bytes : ByteArray} {isProgram : Bool}
    (held : g.find? p = some (.file bytes isProgram)) :
    u.find? p = some (.file bytes isProgram) ∨ p = place w.directory path ∧ u.Holds bytes := by
  cases created with
  | new absent vacant unasked stored =>
    have other : p ≠ place w.directory path := by
      rintro rfl
      rw [vacant] at held
      cases held
    exact .inl ((stored.2 p other).trans held)
  | kept present skip => cases answered.symm.trans skip
  | overwritten present overwrite => cases answered.symm.trans overwrite
  | @backedUp old _ v present backup found free apart copied stored =>
    -- First the bytes go to the backup's place, then the content comes to the file's.
    by_cases same : p = place w.directory path
    · obtain ⟨isProgram', saved⟩ := copied.1
      rw [same, found] at held
      cases held
      exact .inr ⟨same, backupPlace w path, isProgram', (stored.2 _ apart).trans saved⟩
    · have other : p ≠ backupPlace w path := by
        rintro rfl
        exact unused bytes isProgram held
      exact .inl ((stored.2 p same).trans ((copied.2 p other).trans held))

/-- A file to be created at a time, and who answers if there is one. -/
structure Creation where
  path : String
  content : String
  time : Nat
  respondent : Respondent

namespace Creation

/-- The world in which a file is created; its time and its respondent are those of the creation. -/
def world (w : World) (t : FileTree) (c : Creation) : World :=
  { w.withFiles t with clock := fun _ => c.time, respondent := c.respondent }

/-- The tree after a file is created, or after that has failed. -/
def result (w : World) (t : FileTree) (c : Creation) : FileTree :=
  ((createFile c.path c.content).outcome (c.world w t)).2.files

/-- No file has the name of the backup that a creation may make. -/
def Unused (w : World) (t : FileTree) (c : Creation) : Prop :=
  ∀ bytes isProgram,
    t.find? (place w.directory (Edit.backupPath c.path c.time)) ≠ some (.file bytes isProgram)

/-- A file stays where it is, unless it is the one that is created anew; even then its bytes are held. -/
def Keeps (w : World) (t : FileTree) (c : Creation) : Prop :=
  ∀ p bytes isProgram, t.find? p = some (.file bytes isProgram) →
    (c.result w t).find? p = some (.file bytes isProgram) ∨
      p = place w.directory c.path ∧ (c.result w t).Holds bytes

theorem result_keeps {w : World} {t : FileTree} {c : Creation} (proper : t.Proper)
    (answered : chosen c.respondent c.path = .ok .backup) (unused : c.Unused w t) :
    (c.result w t).Proper ∧ c.Keeps w t := by
  rcases done : (createFile c.path c.content).outcome (c.world w t) with ⟨r, w'⟩
  have result : c.result w t = w'.files := congrArg (·.2.files) done
  rw [Keeps, result]
  obtain ⟨g, prepared, ⟨e, -, rfl⟩ | ⟨-, proper', created⟩⟩ := createFile_cases proper done
  · exact ⟨prepared.proper, fun p bytes isProgram held => .inl (prepared.grows.kept held)⟩
  · refine ⟨proper', fun p bytes isProgram held => ?_⟩
    -- A file in the backup's place would have been there before the missing directories were made.
    refine created.keeps answered (fun bytes' isProgram' found => ?_) (prepared.grows.kept held)
    rw [← prepared.grows.find?_eq (found ▸ nofun)] at found
    exact unused bytes' isProgram' found

end Creation

/-- The tree after files are created one after another. -/
def createAll (w : World) (t : FileTree) (creations : List Creation) : FileTree :=
  creations.foldl (Creation.result w) t

/-- Each conflict is answered by a backup, and no file has the name of the backup at that time. -/
inductive BackedUp (w : World) : FileTree → List Creation → Prop
  | nil (t : FileTree) : BackedUp w t []
  | cons {t : FileTree} {c : Creation} {creations : List Creation}
      (answered : chosen c.respondent c.path = .ok .backup) (unused : c.Unused w t)
      (later : BackedUp w (c.result w t) creations) : BackedUp w t (c :: creations)

namespace BackedUp

variable {w : World} {t : FileTree} {creations : List Creation}

theorem drop {before after : List Creation} (saved : BackedUp w t (before ++ after))
    (proper : t.Proper) :
    (createAll w t before).Proper ∧ BackedUp w (createAll w t before) after := by
  induction before generalizing t with
  | nil => exact ⟨proper, saved⟩
  | cons c before ih =>
    cases saved with
    | cons answered unused later => exact ih later (Creation.result_keeps proper answered unused).1

/-- What is held at the beginning is held at the end. -/
theorem holds (saved : BackedUp w t creations) (proper : t.Proper) {bytes : ByteArray}
    (held : t.Holds bytes) : (createAll w t creations).Holds bytes := by
  induction saved with
  | nil => exact held
  | cons answered unused later ih =>
    obtain ⟨proper', keeps⟩ := Creation.result_keeps proper answered unused
    refine ih proper' ?_
    obtain ⟨p, isProgram, found⟩ := held
    rcases keeps p bytes isProgram found with same | ⟨-, moved⟩
    · exact ⟨p, isProgram, same⟩
    · exact moved

/-- A file at which nothing is created stays as it is. -/
theorem find?_eq (saved : BackedUp w t creations) (proper : t.Proper) {p : Location}
    {bytes : ByteArray} {isProgram : Bool} (found : t.find? p = some (.file bytes isProgram))
    (others : ∀ c ∈ creations, place w.directory c.path ≠ p) :
    (createAll w t creations).find? p = some (.file bytes isProgram) := by
  induction saved with
  | nil => exact found
  | @cons t c creations answered unused later ih =>
    obtain ⟨proper', keeps⟩ := Creation.result_keeps proper answered unused
    have same := (keeps p bytes isProgram found).resolve_right fun ⟨here, _⟩ =>
      others c List.mem_cons_self here.symm
    exact ih proper' same fun c' member => others c' (List.mem_cons_of_mem c member)

end BackedUp

/-- As long as backups get names of their own, all that files hold at any time is held at the end, and
the files that were there at first and are not created anew are as they were. -/
theorem createAll_keeps {w : World} {t : FileTree} {creations : List Creation} (proper : t.Proper)
    (saved : BackedUp w t creations) :
    (∀ before after bytes, creations = before ++ after → (createAll w t before).Holds bytes →
      (createAll w t creations).Holds bytes) ∧
    ∀ p bytes isProgram, t.find? p = some (.file bytes isProgram) →
      (∀ c ∈ creations, place w.directory c.path ≠ p) →
      (createAll w t creations).find? p = some (.file bytes isProgram) := by
  refine ⟨?_, fun p bytes isProgram found others => saved.find?_eq proper found others⟩
  rintro before after bytes rfl held
  obtain ⟨proper', later⟩ := saved.drop proper
  rw [createAll, List.foldl_append]
  exact later.holds proper' held

/-- Two versions backed up at different times are both kept. -/
theorem createAll_keeps_of_two_times :
    let t := FileTree.empty.put ["README"] (.file "first".toUTF8 false)
    let w : World := ⟨⟨t, [], .typed []⟩, [], fun _ => 0, .terminal, []⟩
    let second : Creation := ⟨"README", "second", 5, always "backup"⟩
    let third : Creation := ⟨"README", "third", 6, always "backup"⟩
    t.Proper ∧ BackedUp w t [second, third] ∧
      (createAll w t [second, third]).Holds "first".toUTF8 ∧
      (createAll w t [second, third]).Holds "second".toUTF8 := by
  intro t w second third
  have proper : t.Proper := FileTree.Proper.single _ _ _
  have unused (u : FileTree) (c : Creation)
      (absent : u.find? (place [] (Edit.backupPath c.path c.time)) = none) : c.Unused w u := by
    intro bytes isProgram found
    cases absent.symm.trans found
  have saved : BackedUp w t [second, third] :=
    .cons (chosen_backup _) (unused t second (by decide +kernel))
      (.cons (chosen_backup _) (unused _ third (by decide +kernel)) (.nil _))
  refine ⟨proper, saved, ?_, ?_⟩
  · exact (createAll_keeps proper saved).1 [] _ _ rfl ⟨["README"], false, by decide +kernel⟩
  · exact (createAll_keeps proper saved).1 [second] [third] _ rfl ⟨["README"], false, by decide +kernel⟩

/-- Of two versions backed up at the same time the first one is lost. -/
theorem createAll_loses_of_one_time :
    let t := FileTree.empty.put ["README"] (.file "first".toUTF8 false)
    let w : World := ⟨⟨t, [], .typed []⟩, [], fun _ => 0, .terminal, []⟩
    let second : Creation := ⟨"README", "second", 5, always "backup"⟩
    let third : Creation := ⟨"README", "third", 5, always "backup"⟩
    t.Proper ∧ chosen second.respondent "README" = .ok .backup ∧ second.time ≤ third.time ∧
      t.Holds "first".toUTF8 ∧ ¬ (createAll w t [second, third]).Holds "first".toUTF8 := by
  intro t w second third
  refine ⟨FileTree.Proper.single _ _ _, chosen_backup _, Nat.le_refl 5,
    ⟨["README"], false, by decide +kernel⟩, ?_⟩
  · have left : createAll w t [second, third] =
        (t.put ["README"] (.file "third".toUTF8 false)).put ["README.backup.5"] (.file "second".toUTF8 false) := by
      decide +kernel
    rintro ⟨p, isProgram, held⟩
    rw [left, FileTree.find?_put _ (by simp), FileTree.find?_put _ (by simp),
      FileTree.find?_put _ (by simp)] at held
    split at held
    · cases held
    · split at held
      · cases held
      · rw [FileTree.find?_empty] at held
        split at held <;> cases held

end FileAction

end Scaffold
