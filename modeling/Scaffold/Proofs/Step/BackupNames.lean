import Scaffold.Proofs.Files.Walk
import Scaffold.Proofs.Number.Numeral
import Scaffold.Step.Edit

/-! The names of backups. The last point of such a name stands before the time, so that the path and the time can
be told from it, and its last name is the longer one of an entry beside the file. -/
namespace Scaffold

namespace Numeral

theorem point_notMem_toString (z : ℤ) : '.' ∉ (toString z).toList := by
  rw [← source_ofInt, point_mem_source]
  exact not_not_intro rfl

theorem mem_toString {z : ℤ} {c : Char} (mem : c ∈ (toString z).toList) : c = '-' ∨ c.isDigit = true := by
  have point : c ≠ '.' := fun same => point_notMem_toString z (same ▸ mem)
  rw [← source_ofInt] at mem
  exact (mem_source mem).imp_right fun other => other.resolve_left point

theorem toString_injective : Function.Injective (toString : ℤ → String) := by
  intro z z' same
  rw [← source_ofInt, ← source_ofInt] at same
  have value := congrArg toRat (source_injective same)
  rw [toRat_ofInt, toRat_ofInt] at value
  exact_mod_cast value

end Numeral

/-! A path with a longer last name. -/

namespace Path

/-- A path is cut after its last slash. -/
theorem exists_lastName (path : String) : ∃ front name, path = front ++ name ∧ '/' ∉ name.toList ∧
    (front = "" ∨ endsInSlash front = true) := by
  have free := notMem_cutName path.toList.reverse
  rcases cutName_cases path.toList.reverse with ⟨all, -⟩ | cut
  · refine ⟨"", path, String.empty_append.symm, fun mem => free (all ▸ List.mem_reverse.mpr mem), .inl rfl⟩
  · refine ⟨.ofList ((cutName path.toList.reverse).2.reverse ++ ['/']),
      .ofList (cutName path.toList.reverse).1.reverse, ?_, by simpa using free, .inr ?_⟩
    · rw [List.reverse_eq_iff, List.reverse_append, List.reverse_cons] at cut
      rw [← String.toList_inj, String.toList_append, String.toList_ofList, String.toList_ofList]
      exact cut
    · rw [endsInSlash_iff, String.toList_ofList]
      exact List.suffix_append _ _

theorem endsInSlash_append {path ending : String} (undivided : '/' ∉ ending.toList) (filled : ending ≠ "") :
    endsInSlash (path ++ ending) = false := by
  rw [Bool.eq_false_iff, Ne, endsInSlash_iff, String.toList_append]
  rintro ⟨rest, same⟩
  have last := congrArg List.getLast? same
  rw [List.getLast?_append_of_ne_nil _ (fun empty => filled (String.toList_eq_nil_iff.mp empty)),
    List.getLast?_concat] at last
  exact undivided (List.mem_of_getLast? last.symm)

end Path

namespace Files

open Scaffold.Path

/-- A valid path that is made longer is valid unless it is too long. -/
theorem checkPath_append {path ending : String} (written : '\x00' ∉ ending.toList)
    (valid : checkPath path = .ok ()) :
    checkPath (path ++ ending) = .ok () ∨ checkPath (path ++ ending) = .error .nameTooLong := by
  obtain ⟨nul, named, -⟩ := checkPath_eq_ok_iff.mp valid
  by_cases short : (path ++ ending).utf8ByteSize < pathLimit
  · exact .inl (checkPath_eq_ok_iff.mpr ⟨by simp [nul, written], by simp [named], short⟩)
  · have long : pathLimit ≤ path.utf8ByteSize + ending.utf8ByteSize := by
      rwa [← String.utf8ByteSize_append, ← Nat.not_lt]
    refine .inr ?_
    rw [checkPath]
    simp [nul, written, named, long]
    rfl

/-- In a directory any name may stand unless it is too long. -/
theorem check_of_parent {t : FileTree} {x y : Target} (checked : x.check t = .ok ()) (same : y.parent = x.parent) :
    y.check t = .ok () ∨ y.check t = .error .nameTooLong := by
  have inside : t.isDirectory y.parent = true :=
    same ▸ (FileTree.isDirectory_iff _ _).mpr (Target.check_eq_ok_iff.mp checked).1
  rw [Target.check, inside]
  cases y.name? with
  | none => exact .inl rfl
  | some name =>
    by_cases long : nameLimit < name.utf8ByteSize
    · exact .inr (by simp [long]; rfl)
    · exact .inl (by simp [long]; rfl)

/-- In the directory that a path ends in, a longer last name is looked for instead, unless it is too long. -/
theorem target_append {t : FileTree} {here : Location} {path ending : String} {x : Target}
    (plain : endsInSlash path = false) (undivided : '/' ∉ ending.toList) (filled : ending ≠ "")
    (written : '\x00' ∉ ending.toList) (found : target t here path = .ok x) :
    ∃ name, x.name? = some name ∧
      (target t here (path ++ ending) = .ok { x with name? := some (name ++ ending) } ∨
        target t here (path ++ ending) = .error .nameTooLong) := by
  obtain ⟨_, within, same⟩ := bind_eq_ok.mp found
  cases same
  obtain ⟨_, valid, within⟩ := bind_eq_ok.mp within
  obtain ⟨reached, walked, within⟩ := bind_eq_ok.mp within
  obtain ⟨_, checked, within⟩ := bind_eq_ok.mp within
  cases within
  have named := (checkPath_eq_ok_iff.mp valid).2.1
  obtain ⟨front, name, parts, longer⟩ := names_lengthen
    (fun empty => named (String.toList_eq_nil_iff.mp empty)) fun slash => by
      rw [(endsInSlash_iff path).mpr slash] at plain
      cases plain
  have longer := longer ending.toList undivided
  rw [← String.toList_append, ← parts_eq, String.ofList_toList] at longer
  rw [← parts_eq] at parts
  have begins : path.toList <+: (path ++ ending).toList := String.toList_append ▸ List.prefix_append _ _
  have start : origin here (path ++ ending) = origin here path := by
    rw [origin, origin, isAbsolute_of_begins begins named]
  have unslashed : endsInSlash (path ++ ending) = false := endsInSlash_append undivided filled
  simp only [parts, List.dropLast_concat, List.getLast?_concat] at walked checked ⊢
  refine ⟨name, rfl, ?_⟩
  simp only [target, targetWithin, longer, start, unslashed, plain, List.dropLast_concat, List.getLast?_concat]
  rcases checkPath_append written valid with valid' | long
  · rw [valid', ok_bind, walked, ok_bind]
    rcases check_of_parent (y := ⟨reached.place, some (name ++ ending), false⟩) checked rfl with fits | long
    · exact .inl (by rw [fits]; rfl)
    · exact .inr (by rw [long]; rfl)
  · exact .inr (by rw [long]; rfl)

end Files

/-! Backups. -/

namespace Edit

open Scaffold.Path

deriving instance DecidableEq for Files.Target

/-- What is put to the end of a path for its backup at a time. -/
def backupEnding (timestamp : ℤ) : String := ".backup." ++ toString timestamp

theorem backupPath_eq (path : String) (timestamp : ℤ) : backupPath path timestamp = path ++ backupEnding timestamp :=
  String.append_assoc

theorem mem_backupEnding {timestamp : ℤ} {c : Char} (mem : c ∈ (backupEnding timestamp).toList) :
    c ∈ ".backup.".toList ∨ c = '-' ∨ c.isDigit = true := by
  rw [backupEnding, String.toList_append, List.mem_append] at mem
  exact mem.imp_right Numeral.mem_toString

theorem slash_notMem_backupEnding (timestamp : ℤ) : '/' ∉ (backupEnding timestamp).toList := by
  intro mem
  rcases mem_backupEnding mem with word | sign | digit
  · exact absurd word (by decide)
  · exact absurd sign (by decide)
  · exact absurd digit (by decide)

theorem nul_notMem_backupEnding (timestamp : ℤ) : '\x00' ∉ (backupEnding timestamp).toList := by
  intro mem
  rcases mem_backupEnding mem with word | sign | digit
  · exact absurd word (by decide)
  · exact absurd sign (by decide)
  · exact absurd digit (by decide)

theorem backupEnding_ne_empty (timestamp : ℤ) : backupEnding timestamp ≠ "" := by
  intro empty
  have letters := congrArg String.length empty
  rw [backupEnding, String.length_append] at letters
  exact absurd letters (by simp)

/-- The time of a backup is what stands after the last point of its name. -/
theorem takeWhile_backupPath (path : String) (timestamp : ℤ) :
    (backupPath path timestamp).toList.reverse.takeWhile (· ≠ '.') = (toString timestamp).toList.reverse := by
  have digits : ∀ c ∈ (toString timestamp).toList.reverse, decide (c ≠ '.') = true := by
    intro c mem
    rw [List.mem_reverse] at mem
    exact decide_eq_true fun point => Numeral.point_notMem_toString timestamp (point ▸ mem)
  have cut : (backupPath path timestamp).toList.reverse =
      (toString timestamp).toList.reverse ++ '.' :: (path ++ ".backup").toList.reverse := by
    simp [backupPath]
  rw [cut, List.takeWhile_append_of_pos digits, List.takeWhile_cons_of_neg (by decide), List.append_nil]

theorem backupPath_eq_iff {path path' : String} {timestamp timestamp' : ℤ} :
    backupPath path timestamp = backupPath path' timestamp' ↔ path = path' ∧ timestamp = timestamp' := by
  constructor
  · intro same
    have digits := takeWhile_backupPath path timestamp
    rw [same, takeWhile_backupPath, List.reverse_inj, String.toList_inj] at digits
    obtain rfl := Numeral.toString_injective digits
    rw [backupPath_eq, backupPath_eq, String.append_left_inj] at same
    exact ⟨same, rfl⟩
  · rintro ⟨rfl, rfl⟩
    rfl

theorem backupPath_ne (path : String) (timestamp : ℤ) : backupPath path timestamp ≠ path := by
  rw [backupPath_eq, Ne, ← String.toList_inj, String.toList_append, List.append_right_eq_self, String.toList_eq_nil_iff]
  exact backupEnding_ne_empty timestamp

/-- Path and time are told by the name of a backup. It is never the path itself, and it stands where the path does:
it has the same front up to the last slash, and in any tree its last name is looked for in the directory that the
last name of the path is looked for in, if it is not too long. -/
theorem backupPath_identifies :
    (∀ path path' timestamp timestamp', backupPath path timestamp = backupPath path' timestamp' ↔
      path = path' ∧ timestamp = timestamp') ∧
    ∀ path timestamp, backupPath path timestamp ≠ path ∧
      (endsInSlash path = false →
        (∃ front name, path = front ++ name ∧ (front = "" ∨ endsInSlash front = true) ∧
          backupPath path timestamp = front ++ (name ++ backupEnding timestamp) ∧
          '/' ∉ (name ++ backupEnding timestamp).toList) ∧
        ∀ (t : FileTree) (here : Location) (x : Files.Target), Files.target t here path = .ok x →
          ∃ name, x.name? = some name ∧
            (Files.target t here (backupPath path timestamp) =
                .ok { x with name? := some (name ++ backupEnding timestamp) } ∨
              Files.target t here (backupPath path timestamp) = .error .nameTooLong)) := by
  refine ⟨fun _ _ _ _ => backupPath_eq_iff, fun path timestamp => ⟨backupPath_ne path timestamp, fun plain => ⟨?_, ?_⟩⟩⟩
  · obtain ⟨front, name, whole, free, start⟩ := exists_lastName path
    refine ⟨front, name, whole, start, ?_, ?_⟩
    · rw [backupPath_eq, ← String.append_assoc, ← whole]
    · rw [String.toList_append, List.mem_append, not_or]
      exact ⟨free, slash_notMem_backupEnding timestamp⟩
  · intro t here x found
    rw [backupPath_eq]
    exact Files.target_append plain (slash_notMem_backupEnding timestamp) (backupEnding_ne_empty timestamp)
      (nul_notMem_backupEnding timestamp) found

/-- A backup is backed up beside it. -/
theorem backupPath_identifies_of_backup :
    let t := FileTree.empty.put ["docs"] .directory
    let path := backupPath "docs/guide" 5
    endsInSlash path = false ∧
      Files.target t [] path = .ok ⟨["docs"], some "guide.backup.5", false⟩ ∧
      Files.target t [] (backupPath path (-7)) = .ok ⟨["docs"], some "guide.backup.5.backup.-7", false⟩ := by
  intro t path
  have plain : endsInSlash path = false := by decide +kernel
  have found : Files.target t [] path = .ok ⟨["docs"], some "guide.backup.5", false⟩ := by decide +kernel
  refine ⟨plain, found, ?_⟩
  obtain ⟨name, named, beside | long⟩ := ((backupPath_identifies.2 path (-7)).2 plain).2 t [] _ found
  · cases named
    exact beside
  · have fits : Files.target t [] (backupPath path (-7)) =
        .ok ⟨["docs"], some "guide.backup.5.backup.-7", false⟩ := by decide +kernel
    rw [fits] at long
    cases long

end Edit

end Scaffold
