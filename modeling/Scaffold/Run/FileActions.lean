import Scaffold.Run.World
import Scaffold.Step.Edit

/-!
Taking file steps. An existing file is not overwritten before the operator has chosen what happens
to it.
-/
namespace Scaffold

inductive ConflictChoice where
  | overwrite
  | skip
  | backup
  deriving DecidableEq, Repr

namespace ConflictChoice

def ofText (text : String) : Except Error ConflictChoice :=
  match Text.lowercase (Text.trimmed text) with
  | "overwrite" => return overwrite
  | "skip" => return skip
  | "backup" => return backup
  | other => throw (.invalidConfiguration (.unknownConflictChoice other))

def promptKey : String := "file_conflict"

def question (path : String) : Question where
  key := promptKey
  text := s!"{path} already exists. What should happen?"
  kind := .select [⟨"Overwrite", "overwrite"⟩, ⟨"Skip", "skip"⟩,
    ⟨"Backup and overwrite", "backup"⟩]
  default := some "backup"
  rule := none

end ConflictChoice

namespace FileAction

open Run

def ensureParent (path : String) : Run Unit := do
  match Path.parent? path with
  | some parent =>
    if !parent.isEmpty then
      onFiles (.filesystem parent) fun here => Files.makeDirectories here parent
  | none => return

def writeText (path content : String) : Run Unit :=
  onFiles (.filesystem path) fun here => Files.write here path content.toUTF8

def askConflict (path : String) : Run ConflictChoice := do
  let answer ← ask (ConflictChoice.question path)
  liftM (ConflictChoice.ofText answer.display)

def backUp (path : String) : Run Unit := do
  let backup := Edit.backupPath path (← now)
  onFiles (.filesystem path) fun here => Files.copy here path backup
  say .note s!"Backed up {path} to {backup}"

def createFile (path content : String) : Run Unit := do
  ensureParent path
  if Files.has (← files) (← directory) path then
    match ← askConflict path with
    | .skip => say .note s!"Kept existing {path}"
    | .backup => do
      backUp path
      writeText path content
    | .overwrite => writeText path content
  else writeText path content

/-- The text of a file, which is empty when there is none. -/
def existingText (path : String) : Run String := do
  match Files.readText (← files) (← directory) path with
  | .ok text => return text
  | .error .notFound =>
    say .note s!"{path} does not exist, starting from empty"
    return ""
  | .error f => throw (.filesystem path f)

def editFile (path content : String) (change : Option FindReplace) : Run Unit := do
  ensureParent path
  let existing ← existingText path
  writeText path (← liftM (Edit.edited existing content change))

def deleteFile (path : String) : Run Unit := do
  ensureParent path
  try onFiles (.filesystem path) fun here => Files.removeFile here path
  catch
    | .filesystem _ .notFound => say .note s!"{path} does not exist, nothing to delete"
    | e => throw e

def moveFile (source destination : String) : Run Unit := do
  if !Files.has (← files) (← directory) source then throw (.moveSourceMissing source)
  ensureParent destination
  onFiles (.filesystem source) fun here => Files.rename here source destination

def take : FileAction → Run Unit
  | create path content => createFile path content
  | edit path content change => editFile path content change
  | delete path => deleteFile path
  | move source destination => moveFile source destination

end FileAction

end Scaffold
