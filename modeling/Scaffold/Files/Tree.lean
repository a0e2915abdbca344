import Std.Data.ExtTreeMap

/-!
A tree of files: below the root, places are given by the names on the way to them. Two trees with
the same entry at every place are equal.
-/
namespace Scaffold

abbrev Location := List String

inductive Entry where
  | file (bytes : ByteArray) (isProgram : Bool)
  | directory
  | link (path : String)

instance : DecidableEq Entry
  | .file a p, .file b q =>
    match ByteArray.instDecidableEq a b, Bool.decEq p q with
    | isTrue h, isTrue k => isTrue (h ▸ k ▸ rfl)
    | isFalse h, _ => isFalse fun e => h (Entry.file.inj e).1
    | _, isFalse k => isFalse fun e => k (Entry.file.inj e).2
  | .directory, .directory => isTrue rfl
  | .link a, .link b =>
    match instDecidableEqString a b with
    | isTrue h => isTrue (congrArg Entry.link h)
    | isFalse h => isFalse fun e => h (Entry.link.inj e)
  | .file .., .directory => isFalse nofun
  | .file .., .link _ => isFalse nofun
  | .directory, .file .. => isFalse nofun
  | .directory, .link _ => isFalse nofun
  | .link _, .file .. => isFalse nofun
  | .link _, .directory => isFalse nofun

structure FileTree where
  entries : Std.ExtTreeMap Location Entry
  deriving DecidableEq

namespace FileTree

def empty : FileTree := ⟨∅⟩

/-- The root is always a directory. -/
def find? (t : FileTree) (place : Location) : Option Entry :=
  if place = [] then some .directory else t.entries[place]?

def isDirectory (t : FileTree) (place : Location) : Bool :=
  t.find? place = some .directory

def put (t : FileTree) (place : Location) (e : Entry) : FileTree :=
  ⟨t.entries.insert place e⟩

/-- Puts bytes at a place; a file that is there stays the kind of file that it is. -/
def putBytes (t : FileTree) (place : Location) (bytes : ByteArray) : FileTree :=
  let isProgram := match t.find? place with
    | some (.file _ isProgram) => isProgram
    | _ => false
  t.put place (.file bytes isProgram)

def erase (t : FileTree) (place : Location) : FileTree :=
  ⟨t.entries.erase place⟩

def below (t : FileTree) (place : Location) : List (Location × Entry) :=
  t.entries.toList.filter fun (p, _) => place.isPrefixOf p && p ≠ place

def names (t : FileTree) (place : Location) : List String :=
  (t.below place).filterMap fun (p, _) =>
    match p.drop place.length with
    | [name] => some name
    | _ => none

def isEmptyAt (t : FileTree) (place : Location) : Bool :=
  (t.below place).isEmpty

def eraseAll (t : FileTree) (place : Location) : FileTree :=
  ⟨t.entries.filter fun p _ => !place.isPrefixOf p⟩

def moveAll (t : FileTree) (source destination : Location) : FileTree :=
  let moved := t.entries.toList.filter fun (p, _) => source.isPrefixOf p
  moved.foldl (fun t (p, e) => t.put (destination ++ p.drop source.length) e)
    ((t.eraseAll destination).eraseAll source)

end FileTree

end Scaffold
