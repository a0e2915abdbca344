import Scaffold.Blueprint.Basic
import Scaffold.Display.Printed
import Scaffold.Files.Tree

/-!
Commands as a run sees them: what a command is given, what it can touch, and how it ends.
-/
namespace Scaffold

/-- Where the lines of an operator come from: they are typed beforehand, or they are the lines of the
process's input. -/
inductive Operator where
  | typed (lines : List String)
  | input
  deriving DecidableEq, Repr

structure Surroundings where
  files : FileTree
  input : List UInt8
  operator : Operator
  deriving DecidableEq

structure Invocation where
  command : String
  directory : Location
  /-- The scripted answers of an interactive command. -/
  interactions : Option (List Blueprint.Interaction)
  deriving DecidableEq, Repr

structure Finished where
  /-- The exit code, unless a signal ended the command. -/
  code : Option Nat
  captured : String
  printed : List Printed
  surroundings : Surroundings

def Finished.isSuccess (f : Finished) : Bool := f.code = some 0

abbrev Shell := Invocation → Surroundings → Finished

end Scaffold
