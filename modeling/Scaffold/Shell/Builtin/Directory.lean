import Scaffold.Shell.Builtin.Options

/-!
The commands of a shell on its current directory and on the rights of new files.
-/
namespace Scaffold.Shell.Builtin

open Act

/-- A path from a directory as it is gone: its names without dots, and with what two dots take back.
It does not matter where links on the way lead. -/
def gonePath (directory path : String) : String :=
  let s := path.toList
  let names := (if s.head? = some '/' then s else directory.toList ++ '/' :: s).splitOn '/'
  let kept := names.foldl (fun before name =>
    if name.isEmpty || name = ['.'] then before
    else if name = ['.', '.'] then before.drop 1
    else name :: before) []
  "/" ++ String.intercalate "/" (kept.reverse.map String.ofList)

def placePath (place : Location) : String := ByteText.ofText (Path.ofNames place)

def enter (path : String) (isPhysical : Bool) : Act Bool := do
  let m ← get
  let gone := gonePath m.own.path path
  let goal := if isPhysical then path else gone
  match Files.locate m.commons.files m.own.directory (systemPath goal) with
  | .error _ => return false
  | .ok place =>
    if !m.commons.files.isDirectory place then return false
    let path := if isPhysical then placePath place else gone
    let old := m.own.path
    modifyOwn fun p => { p with directory := place, path := path }
    let exported (value : String) : Variable := ⟨some value, true, false⟩
    putVariable "OLDPWD" (exported old)
    putVariable "PWD" (exported path)
    return true

def isAnchored (path : String) : Bool :=
  path.startsWith "/" || path = "." || path = ".." || path.startsWith "./" || path.startsWith "../"

def candidates (path : String) : Act (List String) := do
  if isAnchored path then return [path]
  match ← value? "CDPATH" with
  | none => return [path]
  | some list =>
    return (list.toList.splitOn ':').map fun front =>
      if front.isEmpty then path else String.ofList front ++ "/" ++ path

def changeDirectory (args : List String) : Act Nat := do
  let (os, args) ← options "" "LP" args
  let isPhysical := (os.getLast?.map (·.1)) = some 'P'
  let isBack := args.head? = some "-"
  let target ← match args with
    | [] => valueOr "HOME" ""
    | arg :: _ => if isBack then valueOr "OLDPWD" "" else pure arg
  let paths ← candidates (if target.isEmpty then "." else target)
  match ← paths.findM? (enter · isPhysical) with
  | none => fail s!"can't cd to {target}"
  | some path => do
    if isBack || path ≠ (if target.isEmpty then "." else target) then writeLine (← own).path
    return 0

def printDirectory (args : List String) : Act Nat := do
  let (os, _) ← options "" "LP" args
  let p ← own
  writeLine (if (os.getLast?.map (·.1)) = some 'P' then placePath p.directory else p.path)
  return 0

/-! Rights of new files. -/

def octal (n : Nat) : String :=
  let ds := Nat.toDigits 8 n
  String.ofList (List.replicate (4 - ds.length) '0' ++ ds)

def rights (mask : Nat) : String :=
  let letters (n : Nat) := String.ofList <|
    [(4, 'r'), (2, 'w'), (1, 'x')].filterMap fun (bit, c) => if n / bit % 2 = 0 then some c else none
  s!"u={letters (mask / 64 % 8)},g={letters (mask / 8 % 8)},o={letters (mask % 8)}"

/-- Rights after a clause has changed them: for whom, how, and which ones. -/
def changedRights? (rights : Nat) (clause : List Char) : Option Nat :=
  let users := clause.takeWhile fun c => "ugoa".contains c
  let bit? (c : Char) : Option Nat := [('r', 4), ('w', 2), ('x', 1)].lookup c
  match clause.drop users.length with
  | op :: letters =>
    if !"+-=".contains op then none
    else
      (letters.mapM bit?).map fun bits =>
        let chosen := bits.foldl (· ||| ·) 0
        let isFor (c : Char) : Bool := users.isEmpty || users.contains 'a' || users.contains c
        [('u', 64), ('g', 8), ('o', 1)].foldl (fun all (c, scale) =>
          let old := rights / scale % 8
          let new := if !isFor c then old
            else if op = '+' then old ||| chosen
            else if op = '-' then old - (old &&& chosen)
            else chosen
          all + scale * new) 0
  | [] => none

def newFileMask (args : List String) : Act Nat := do
  let (os, args) ← options "" "S" args
  match args with
  | [] => do
    let mask := (← own).mask
    writeLine (if os.isEmpty then octal mask else rights mask)
    return 0
  | text :: _ => do
    let ds := text.toList
    let mask ←
      if ds.head?.any Char.isDigit then
        if ds.all fun c => '0' ≤ c && c ≤ '7' then
          pure (ds.foldl (fun n c => 8 * n + (c.toNat - '0'.toNat)) 0 % 512)
        else fail s!"Illegal number: {text}"
      else
        match (ds.splitOn ',').foldlM changedRights? (511 - (← own).mask) with
        | some kept => pure (511 - kept)
        | none => fail s!"Illegal mode: {text}"
    modifyOwn fun p => { p with mask := mask }
    return 0

end Scaffold.Shell.Builtin
