import Scaffold.Shell.Builtin.Directory
import Scaffold.Shell.Builtin.Print
import Scaffold.Shell.Builtin.Processes
import Scaffold.Shell.Builtin.Test
import Scaffold.Shell.Builtin.Variables
import Scaffold.Shell.Lookup

/-!
The commands that a shell carries out itself, by their names; those that run scripts or programs are
not among them.
-/
namespace Scaffold.Shell.Builtin

open Act

/-! Names. -/

def describeAll (isProgram : String → Bool) (isShort : Bool) (names : List String) : Act Nat := do
  let found ← names.mapM (Lookup.describe isProgram isShort)
  return if found.all id then 0 else 127

def remember (isProgram : String → Bool) (args : List String) : Act Nat := do
  let (_, names) ← options "" "rv" args
  let codes ← names.mapM fun name => do
    let isKnown := Lookup.isOwn name || (← own).functions.contains name
    match ← Lookup.program isProgram name with
    | (.system _, _) | (.script _, _) => return 0
    | _ => do
      if !isKnown then warn s!"{name}: not found"
      return if isKnown then 0 else 1
  return codes.foldl max 0

/-! Limits and jobs. -/

def showLimits (_ : List String) : Act Nat := do
  writeLine "unlimited"
  return 0

/-- There are never jobs that could be brought to the front. -/
def noJob (args : List String) : Act Nat :=
  match args with
  | [] => fail "No current job"
  | name :: _ => fail s!"No such job: {name}"

/-! All commands. -/

/-- The command with a name; `isProgram` knows the programs of the system. -/
def find? (isProgram : String → Bool) (name : String) : Option (List String → Act Nat) :=
  match name with
  | ":" | "true" | "jobs" => some fun _ => return 0
  | "false" => some fun _ => return 1
  | "[" => some bracket
  | "alias" => some aliases
  | "bg" | "fg" => some noJob
  | "break" => some (leaveLoops .leaveLoop)
  | "cd" | "chdir" => some changeDirectory
  | "continue" => some (leaveLoops .nextRound)
  | "echo" => some echo
  | "exit" => some exitShell
  | "export" => some exportVariables
  | "getopts" => some getOption
  | "hash" => some (remember isProgram)
  | "kill" => some kill
  | "local" => some makeLocal
  | "printf" => some printFormatted
  | "pwd" => some printDirectory
  | "read" => some read
  | "readonly" => some protectVariables
  | "return" => some returnFrom
  | "set" => some set
  | "shift" => some shift
  | "test" => some test
  | "times" => some fun _ => showTimes
  | "trap" => some setTraps
  | "type" => some (describeAll isProgram false)
  | "ulimit" => some showLimits
  | "umask" => some newFileMask
  | "unalias" => some removeAliases
  | "unset" => some unset
  | "wait" => some wait
  | _ => none

end Scaffold.Shell.Builtin
