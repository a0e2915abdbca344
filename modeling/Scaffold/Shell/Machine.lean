import Scaffold.Files.Operations
import Scaffold.Shell.ByteText
import Scaffold.Shell.Console
import Scaffold.Shell.Script

/-!
The state of running shells. What a shell has of its own is copied for a subshell and lost with it;
files, open files and pipes are common to all.
-/
namespace Scaffold.Shell

/-! What is common to all shells. -/

inductive Channel where
  | input
  | output
  | error
  | nowhere
  | file (number : Nat)
  | pipe (number : Nat)
  deriving DecidableEq, Repr

structure OpenFile where
  place : Location
  offset : Nat
  isAppended : Bool
  isReadable : Bool
  isWritable : Bool

structure Pipe where
  bytes : ByteArray
  taken : Nat

/-- A script that runs beside the shell which has begun it. -/
structure Job where
  number : Nat
  status : Nat
  signal : Option Nat
  sleeps : Bool

structure Commons where
  files : FileTree
  console : Console
  /-- Whether the input is a file, in which one can go back. -/
  inputIsFile : Bool
  openFiles : Std.ExtTreeMap Nat OpenFile
  pipes : Std.ExtTreeMap Nat Pipe
  lastNumber : Nat
  slept : Nat
  /-- The signals that subshells have sent to the shells that they belong to. -/
  raised : List (Nat × Nat)

/-! What a shell has of its own. -/

structure Variable where
  value : Option String
  isExported : Bool
  isReadOnly : Bool

structure Process where
  /-- The number that the shell has among all processes; its subshells have the same. -/
  number : Nat
  name : String
  arguments : List String
  bindings : Std.ExtTreeMap String Variable
  /-- What variables were outside of the functions and commands that made them local. -/
  hidden : List (List (String × Option Variable))
  functions : Std.ExtTreeMap String Script
  aliases : List (String × String)
  documents : List Document
  nextDocument : Nat
  settings : List Char
  directory : Location
  /-- The path to the directory, as it was gone. -/
  path : String
  streams : List (Nat × Channel)
  /-- The scripts for signals; an empty one ignores a signal, and number zero is the end. -/
  traps : List (Nat × String)
  pending : List Nat
  status : Nat
  /-- The status of the last script in an expansion of this command. -/
  innerStatus : Option Nat
  loops : Nat
  calls : Nat
  line : Nat
  command : Option String
  isSubshell : Bool
  /-- The status before the running script of a signal. -/
  interruptedStatus : Option Nat
  jobs : List Job
  mask : Nat
  /-- The argument that is the next to be read as options, counted from one. -/
  optionIndex : Nat
  /-- How far the letters of the argument before it have been read. -/
  optionOffset : Nat

def processNumber : Nat := 4242

structure Machine where
  commons : Commons
  own : Process

inductive Stop where
  | exit
  /-- A command has been used wrongly, which ends the shell unless the command is a plain one. -/
  | misuse
  /-- A signal ends the shell with a number, and all in it. -/
  | killed (shell signal : Nat)
  | leaveLoop (levels : Nat)
  | nextRound (levels : Nat)
  | leaveFunction
  deriving DecidableEq, Repr

abbrev Act (α : Type) := ExceptT Stop (StateM Machine) α

namespace Act

def own : Act Process := return (← get).own
def commons : Act Commons := return (← get).commons
def modifyOwn (f : Process → Process) : Act Unit := modify fun m => { m with own := f m.own }

def modifyCommons (f : Commons → Commons) : Act Unit :=
  modify fun m => { m with commons := f m.commons }

def setStatus (n : Nat) : Act Unit := modifyOwn fun p => { p with status := n }

def ofBool (b : Bool) : Act Nat := return if b then 0 else 1

def exit (n : Nat) : Act α := do
  setStatus n
  throw .exit

def newNumber : Act Nat := do
  let n := (← commons).lastNumber + 1
  modifyCommons fun c => { c with lastNumber := n }
  return n

def isSet (letter : Char) : Act Bool := return (← own).settings.contains letter

end Act

end Scaffold.Shell
