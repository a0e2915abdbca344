import Scaffold.Number.Binary64

/-!
Documents as trees: scalars, lists and records, as JSON and YAML have them. What a scalar stands for
depends on what is asked for, so each scalar carries its readings. A tree may end in a broken place,
where the syntax of its text stops making sense; what comes before it can be read all the same.
-/
namespace Scaffold.Document

inductive Atom where
  | null
  | flag (b : Bool)
  | integer (n : Int)
  | number (x : Binary64)
  | text (s : String)
  deriving DecidableEq, Repr

inductive Presence where
  | missing
  | present
  /-- It calls itself missing and has a text all the same. -/
  | contradictory
  deriving DecidableEq, Repr

structure Scalar where
  text? : Option String
  flag? : Option Bool
  atom? : Option Atom
  presence : Presence
  /-- Whether it stands for an empty list or record where one is asked for. -/
  isBlank : Bool
  deriving DecidableEq, Repr

def Scalar.ofAtom (a : Atom) : Scalar where
  text? := match a with | .text s => some s | _ => none
  flag? := match a with | .flag b => some b | _ => none
  atom? := some a
  presence := if a = .null then .missing else .present
  isBlank := false

def Scalar.unreadable : Scalar where
  text? := none
  flag? := none
  atom? := none
  presence := .present
  isBlank := false

inductive Tree where
  | scalar (s : Scalar)
  | list (items : List Tree)
  | record (entries : List (Tree × Tree))
  /-- A tree under a tag that is known to its writer only. -/
  | tagged (t : Tree)
  | reference (anchor : Nat)
  | broken

namespace Tree

def atom (a : Atom) : Tree := scalar (.ofAtom a)
def null : Tree := atom .null
def flag (b : Bool) : Tree := atom (.flag b)
def integer (n : Int) : Tree := atom (.integer n)
def number (x : Binary64) : Tree := atom (.number x)
def text (s : String) : Tree := atom (.text s)

def ofFields (fields : List (String × Tree)) : Tree :=
  record (fields.map fun (name, value) => (text name, value))

mutual

/-- Whether there is no broken place in a tree. What its aliases stand for does not count. -/
def isComplete : Tree → Bool
  | scalar _ => true
  | list items => allComplete items
  | record entries => entriesComplete entries
  | tagged t => t.isComplete
  | reference _ => true
  | broken => false

def allComplete : List Tree → Bool
  | [] => true
  | t :: ts => t.isComplete && allComplete ts

def entriesComplete : List (Tree × Tree) → Bool
  | [] => true
  | (key, value) :: entries => key.isComplete && value.isComplete && entriesComplete entries

end

mutual

/-- How many parts a tree is written with: a list or a record has a beginning and an end. -/
def size : Tree → Nat
  | list items => allSize items + 2
  | record entries => entriesSize entries + 2
  | tagged t => t.size
  | _ => 1

def allSize : List Tree → Nat
  | [] => 0
  | t :: ts => t.size + allSize ts

def entriesSize : List (Tree × Tree) → Nat
  | [] => 0
  | (key, value) :: entries => key.size + value.size + entriesSize entries

end

def isReference : Tree → Bool
  | reference _ => true
  | _ => false

def text? : Tree → Option String
  | scalar s => s.text?
  | _ => none

def flag? : Tree → Option Bool
  | scalar s => s.flag?
  | _ => none

def atom? : Tree → Option Atom
  | scalar s => s.atom?
  | _ => none

def items : Tree → List Tree
  | list items => items
  | _ => []

def fields : Tree → List (String × Tree)
  | record entries => entries.filterMap fun (key, value) => key.text?.map (·, value)
  | _ => []

def field? (t : Tree) (name : String) : Option Tree :=
  t.fields.lookup name

end Tree

structure Source where
  root : Tree
  anchors : Array Tree
  /-- Whether the text ends after the root. -/
  ends : Bool

end Scaffold.Document
