import Scaffold.Pattern.Replacement
import Scaffold.Step.Resolved
import Scaffold.Text.Lowercase

/-!
The texts that file actions make: new content around the old one, old content with matches replaced,
and the names of backups.
-/
namespace Scaffold.Edit

open Text

/-- What stands in new content for the old one. -/
def contentPlaceholder : List Char := "\x7b\x7bfile-content\x7d\x7d".toList

def importKeyword : List Char := "@import".toList

def isImportName (c : Char) : Bool := c ≠ ';' && !isBlank c

def importStatement? (s : List Char) : Option (List Char × List Char) := do
  let s ← dropStart? importKeyword s
  if !s.head?.any isBlank then none
  let s := trimStart s
  let name := s.takeWhile isImportName
  let after ← dropStart? [';'] (s.dropWhile isImportName)
  if name.isEmpty then none else some (name, after)

theorem importStatement?_lt {s name after : List Char}
    (h : importStatement? s = some (name, after)) : after.length < s.length := by
  simp only [importStatement?, Option.bind_eq_bind, Option.bind_eq_some_iff] at h
  obtain ⟨r, hr, h⟩ := h
  split at h
  · cases h
  · simp only [Option.bind_eq_some_iff] at h
    obtain ⟨a, ha, h⟩ := h
    split at h
    · cases h
    · cases h
      have h1 := Template.length_of_dropStart? hr
      have h2 := Template.length_of_dropStart? ha
      have h3 : (trimStart r).length ≤ r.length := (List.dropWhile_sublist _).length_le
      have h4 : ((trimStart r).dropWhile isImportName).length ≤ (trimStart r).length :=
        (List.dropWhile_sublist _).length_le
      have h5 : 0 < importKeyword.length := by decide
      omega

def importLine (name : List Char) : List Char :=
  "import ".toList ++ name ++ " from '".toList ++ name ++ "';".toList

def convertImports (s : List Char) : List Char :=
  match _ : importStatement? s with
  | some (name, after) => importLine name ++ convertImports after
  | none =>
    match s with
    | [] => []
    | c :: s => c :: convertImports s
termination_by s.length
decreasing_by
  · exact importStatement?_lt ‹_›
  · simp

/-- New content, in which the first placeholder stands for the old one. -/
def fillContent (existing content : String) : String :=
  String.ofList (convertImports
    (replaceFirst contentPlaceholder existing.toList content.toList))

def findReplace (existing : String) (change : FindReplace) : Except Error String :=
  match Pattern.parse change.find with
  | .ok p => return p.replaceAll change.replacement existing
  | .error f => throw (.invalidPattern change.find f)

def edited (existing content : String) : Option FindReplace → Except Error String
  | some change => findReplace existing change
  | none => return fillContent existing content

def backupPath (path : String) (timestamp : Int) : String :=
  path ++ ".backup." ++ toString timestamp

end Scaffold.Edit
