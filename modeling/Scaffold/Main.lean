import Scaffold.CommandLine.Footprint
import Scaffold.Shell.Interpreter
import Std.Time.DateTime.Timestamp

/-!
The program. A run is a function of the files around it: those that its blueprint names are read
before it, and what it made of them is written after it. Directories count as empty, so that one is
only removed when nothing is in it.
-/
namespace Scaffold.Main

open CommandLine

def entryAt (place : Location) : IO (Option Entry) := do
  match ← (IO.FS.readBinFile (Path.ofNames place)).toBaseIO with
  | .ok bytes => return some (.file bytes false)
  | .error (.noFileOrDirectory _ _ _) => return none
  | .error _ => return some .directory

def onTheWay (place : Location) : List Location :=
  (List.range place.length).map fun n => place.take (n + 1)

def addPlaces (t : FileTree) (places : List Location) : IO FileTree :=
  (places.flatMap onTheWay).eraseDups.foldlM (fun t place => do
    match ← entryAt place with
    | some e => return t.put place e
    | none => return t) t

def programRights : IO.FileRight :=
  ⟨⟨true, true, true⟩, ⟨true, false, true⟩, ⟨true, false, true⟩⟩

/-- Puts an entry on the disk. A symbolic link becomes another name of the file that it leads to. -/
def writeEntry (t : FileTree) (place : Location) (e : Entry) : IO Unit := do
  let path := Path.ofNames place
  match e with
  | .file bytes isProgram => do
    IO.FS.writeBinFile path bytes
    if isProgram then IO.setAccessRights path programRights
  | .directory => IO.FS.createDirAll path
  | .link _ =>
    match Files.locate t [] path with
    | .ok goal => if !t.isDirectory goal then IO.FS.hardLink (Path.ofNames goal) path
    | .error _ => return

/-- Brings the disk from one tree to another: what is gone goes first, the innermost before the
rest, and directories are made before what is in them. -/
def writeChanges (before after : FileTree) : IO Unit := do
  for (place, e) in before.entries.toList.reverse do
    if after.find? place ≠ some e then
      match e with
      | .directory => IO.FS.removeDir (Path.ofNames place)
      | _ => IO.FS.removeFile (Path.ofNames place)
  let isLink (change : Location × Entry) := change.2 matches .link _
  let changes := after.entries.toList.filter fun (place, e) => before.find? place ≠ some e
  let (links, others) := changes.partition isLink
  (others ++ links).forM fun (place, e) => writeEntry after place e

/-- The variables of the process, where the system shows them as a file. -/
def environment : IO (Std.ExtTreeMap String String) := do
  let bytes ← (IO.FS.readBinFile "/proc/self/environ").toBaseIO
  let text := match bytes with
    | .ok bytes => (String.fromUTF8? bytes).getD ""
    | .error _ => ""
  return .ofList <| (Text.pieces '\x00' text.toList).map fun setting =>
    (String.ofList (setting.takeWhile (· ≠ '=')),
      String.ofList ((setting.dropWhile (· ≠ '=')).drop 1))

partial def readAll (input : IO.FS.Stream) (read : ByteArray) : IO ByteArray := do
  let bytes ← input.read 4096
  if bytes.isEmpty then return read else readAll input (read ++ bytes)

/-- The input of the process; a terminal is not read, since nothing of a run comes from it. -/
def processInput : IO (List UInt8) := do
  let input ← IO.getStdin
  if ← input.isTty then return [] else return (← readAll input .empty).toList

def situation (arguments : List String) : IO Situation := do
  let environment ← environment
  let directory := Path.place [] (toString (← IO.currentDir))
  let start ← Std.Time.Timestamp.now
  let s : Situation :=
    { arguments := arguments, environment := environment, directory := directory
      files := .empty, input := ← processInput, onTerminal := false
      clock := fun n => start.toMillisecondsSinceUnixEpoch.toInt.toNat + n
      shell := Scaffold.Shell.interpreter false environment }
  let s := { s with files := ← addPlaces s.files (directory :: s.documentPlace?.toList) }
  return { s with files := ← addPlaces s.files s.footprint }

def print (p : Printed) : IO Unit := do
  match p with
  | .out bytes => (← IO.getStdout).write ⟨bytes.toArray⟩
  | .err bytes => (← IO.getStderr).write ⟨bytes.toArray⟩

end Scaffold.Main

def main (arguments : List String) : IO UInt32 := do
  let s ← Scaffold.Main.situation arguments
  let outcome := Scaffold.CommandLine.run s
  outcome.printed.forM Scaffold.Main.print
  Scaffold.Main.writeChanges s.files outcome.files
  return .ofNat outcome.code
