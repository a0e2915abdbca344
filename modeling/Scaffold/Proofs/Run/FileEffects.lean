import Scaffold.Proofs.Run.FileActions

/-! What a file action leaves of a tree, when it fails and when it succeeds. -/
namespace Scaffold

open Files Run

namespace FileAction

/-- What an action that succeeds makes of a tree that has the directories on the way of its path. -/
def Leaves (w : World) (g u : FileTree) : FileAction → Prop
  | create path content => Created w path content g u
  | edit path content change => Edited w.directory path content change g u
  | delete path => Deleted w.directory path g u
  | move source destination => Moved (place w.directory source) (place w.directory destination) g u

theorem Prepared.refl {here : Location} {t : FileTree} (proper : t.Proper) (path : String) :
    Prepared here path t t := ⟨proper, .refl _ t, fun _ => rfl⟩

theorem take_cases {action : FileAction} {w w' : World} (proper : w.files.Proper)
    {r : Except Error Unit} (done : action.take.outcome w = (r, w')) :
    ∃ g, Prepared w.directory action.target w.files g ∧
      ((∃ e, r = .error e ∧ w'.files = g) ∨ r = .ok () ∧ action.Leaves w g w'.files) := by
  cases action with
  | create path content =>
    obtain ⟨g, prepared, failed | ⟨ok, -, created⟩⟩ := createFile_cases proper done
    · exact ⟨g, prepared, .inl failed⟩
    · exact ⟨g, prepared, .inr ⟨ok, created⟩⟩
  | edit path content change => exact editFile_cases proper done
  | delete path => exact deleteFile_cases proper done
  | move source destination =>
    cases present : has w.files w.directory source with
    | true => exact moveFile_cases proper present done
    | false =>
      cases (outcome_moveFile_of_missing present).symm.trans done
      exact ⟨w.files, .refl proper _, .inl ⟨_, rfl, rfl⟩⟩

/-! Failure. -/

/-- An action that fails leaves all files and directories as they are, and what is new is a directory
on the way of its path. A move without a source changes nothing at all. -/
theorem take_spares (action : FileAction) (w : World) (proper : w.files.Proper) :
    (∀ e w', action.take.outcome w = (.error e, w') →
      w.files.Grows (ancestors w.directory action.target) w'.files) ∧
    ∀ source destination, action = .move source destination →
      has w.files w.directory source = false →
      action.take.outcome w = (.error (.moveSourceMissing source), w) := by
  constructor
  · intro e w' failed
    obtain ⟨g, prepared, ⟨_, -, rfl⟩ | ⟨ok, -⟩⟩ := take_cases proper failed
    · exact prepared.grows
    · cases ok
  · rintro source destination rfl missing
    exact outcome_moveFile_of_missing missing

/-- A file cannot be created in the place of a directory, for which a directory is made. -/
theorem create_directory_spares :
    let w : World := ⟨⟨.empty, [], .typed []⟩, [], fun _ => 0, .terminal, []⟩
    let action : FileAction := .create "notes/today/" "fine"
    w.files.Proper ∧ ∃ e w', action.take.outcome w = (.error e, w') ∧
      w.files.Grows (ancestors [] "notes/today/") w'.files ∧
      w'.files.find? ["notes"] = some .directory := by
  intro w action
  have proper : w.files.Proper := .empty
  refine ⟨proper, ?_⟩
  have fails : (action.take.outcome w).1.isOk = false := by decide +kernel
  have made : (action.take.outcome w).2.files.find? ["notes"] = some .directory := by decide +kernel
  rcases done : action.take.outcome w with ⟨e | _, w'⟩
  · rw [done] at made
    exact ⟨e, w', rfl, (take_spares action w proper).1 e w' done, made⟩
  · rw [done] at fails
    cases fails

/-! Success. -/

/-- An action that succeeds does all that it is for, in the tree with the missing directories on the
way of its path. If there has been something at the end of the path, no directory is missing. If the
path never goes back, the missing directories are above its end, where there is something with them if
there is without. -/
theorem take_leaves {action : FileAction} {w w' : World} (proper : w.files.Proper)
    (done : action.take.outcome w = (.ok (), w')) :
    ∃ g, w.files.Grows (ancestors w.directory action.target) g ∧
      (has w.files w.directory action.target = true → g = w.files) ∧
      (".." ∉ Path.parts action.target →
        has g w.directory action.target = has w.files w.directory action.target ∧
          ∀ q, g.find? q = w.files.find? q ∨
            q <+: place w.directory action.target ∧ q ≠ place w.directory action.target) ∧
      action.Leaves w g w'.files := by
  obtain ⟨g, prepared, ⟨_, failed, -⟩ | ⟨-, leaves⟩⟩ := take_cases proper done
  · cases failed
  refine ⟨g, prepared.grows, ?_, ?_, leaves⟩
  · exact fun present => prepared.kept ((has_iff proper.unlinked).mp present).1
  · intro forward
    refine ⟨has_of_grows proper prepared.proper prepared.grows forward, fun q => ?_⟩
    exact (prepared.grows q).imp_right fun made => ancestors_above forward made.2.2

/-- A file is created in the place of another one, which is backed up. -/
theorem create_leaves_backup :
    let t := FileTree.empty.put ["README"] (.file "mine".toUTF8 false)
    let w : World := ⟨⟨t, [], .typed []⟩, [], fun _ => 5, always "backup", []⟩
    t.Proper ∧ ∃ w' g, (create "README" "yours").take.outcome w = (.ok (), w') ∧
      t.Grows (ancestors [] "README") g ∧ Created w "README" "yours" g w'.files ∧
      w'.files.find? ["README.backup.5"] = some (.file "mine".toUTF8 false) := by
  intro t w
  have proper : w.files.Proper := FileTree.Proper.single _ _ _
  refine ⟨proper, ?_⟩
  have succeeds : ((create "README" "yours").take.outcome w).1.isOk = true := by decide +kernel
  have saved : ((create "README" "yours").take.outcome w).2.files.find? ["README.backup.5"] =
      some (.file "mine".toUTF8 false) := by decide +kernel
  rcases done : (create "README" "yours").take.outcome w with ⟨e | _, w'⟩
  · rw [done] at succeeds
    cases succeeds
  · rw [done] at saved
    obtain ⟨g, grows, -, -, created⟩ := take_leaves proper done
    exact ⟨w', g, rfl, grows, created, saved⟩

/-- On its way a path may go back from a directory that is missing. The directory is new even if the
file is kept, it may be the end of the path itself, about which the operator is asked, and it may be
moved to where it is not on the way. -/
theorem take_through_missing_directory :
    let w (t : FileTree) : World := ⟨⟨t, [], .typed []⟩, [], fun _ => 0, always "skip", []⟩
    let readme := FileTree.empty.put ["README"] (.file "mine".toUTF8 false)
    let folder := FileTree.empty.put ["a"] .directory
    let kept := (create "new/../README" "yours").take.outcome (w readme)
    let asked := (create "new/x/.." "yours").take.outcome (w .empty)
    let moved := (move "a" "a/x/../../b").take.outcome (w folder)
    (kept.1.isOk = true ∧ kept.2.files.find? ["README"] = some (.file "mine".toUTF8 false) ∧
      readme.find? ["new"] = none ∧ kept.2.files.find? ["new"] = some .directory) ∧
    (asked.1.isOk = true ∧ has .empty [] "new/x/.." = false ∧
      asked.2.transcript.any (· matches .asked _) = true) ∧
    (moved.1.isOk = true ∧ folder.find? ["a", "x"] = none ∧
      moved.2.files.find? ["b", "x"] = some .directory ∧
      ["b", "x"] ∉ ancestors [] "a/x/../../b") := by
  decide +kernel

end FileAction

end Scaffold
