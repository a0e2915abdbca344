import Scaffold.Shell.Utility.Basic

/-!
Programs that compare two texts: by their bytes, and by their lines.
-/
namespace Scaffold.Shell.Utility

open Act

def readPair? (program first second : String) : Act (Option (String × String)) := do
  let (texts, isComplete) ← readPaths [first, second] fun path f => s!"{program}: {path}: {f.text}"
  match texts, isComplete with
  | [(_, a), (_, b)], true => return some (a, b)
  | _, _ => return none

def compareBytes (args : List String) : Act Nat :=
  withOptions "cmp" (letters "sl") 2 args fun r => do
    let first :: others := r.operands | misuse "cmp" "missing operand after 'cmp'" 2
    let second := others.headD "-"
    let some (a, b) ← readPair? "cmp" first second | return 2
    let isQuiet := r.has 's'
    let s := a.toList
    let t := b.toList
    match (s.zip t).findIdx? fun (c, d) => c ≠ d with
    | some i => do
      let line := (s.take i).count '\n' + 1
      if !isQuiet then writeLine s!"{first} {second} differ: char {i + 1}, line {line}"
      return 1
    | none => do
      if s.length = t.length then return 0
      let (name, short) := if s.length < t.length then (first, s) else (second, t)
      let line := short.count '\n' + (if short.getLast? = some '\n' then 0 else 1)
      if !isQuiet then
        complain (if short.isEmpty then s!"cmp: EOF on {name} which is empty"
          else s!"cmp: EOF on {name} after byte {short.length}, " ++
            (if short.getLast? = some '\n' then s!"line {line}" else s!"in line {line}"))
      return 1

/-! Lines. -/

/-- How much longest common parts have of the ends of two lists: the table for one line more. -/
def nextRow (a : String) (bs : List String) (row : List Nat) : List Nat :=
  match bs, row with
  | b :: bs, below :: row =>
    let rest := nextRow a bs row
    let best := if a = b then row.headD 0 + 1 else max below (rest.headD 0)
    best :: rest
  | _, row => row

def rows (as bs : List String) : List (List Nat) :=
  as.foldr (fun a rs => nextRow a bs (rs.headD []) :: rs) [List.replicate (bs.length + 1) 0]

structure Difference where
  oldLine : Nat
  newLine : Nat
  old : List String
  new : List String

def steps (as bs : List String) (rs : List (List Nat)) (j : Nat) : Nat → List (Bool × Bool × String)
  | 0 => []
  | fuel + 1 =>
    match as, bs with
    | [], bs => bs.map fun b => (false, true, b)
    | as, [] => as.map fun a => (true, false, a)
    | a :: as, b :: bs =>
      if a = b then (true, true, a) :: steps as bs (rs.drop 1) (j + 1) fuel
      else
        let skipOld := ((rs[1]?).getD [])[j]?.getD 0
        let skipNew := ((rs[0]?).getD [])[j + 1]?.getD 0
        if skipNew ≤ skipOld then (true, false, a) :: steps as (b :: bs) (rs.drop 1) j fuel
        else (false, true, b) :: steps (a :: as) bs rs (j + 1) fuel

def differences (oldLine newLine : Nat) :
    List (Bool × Bool × String) → Nat → List Difference
  | [], _ | _, 0 => []
  | (true, true, _) :: rest, fuel + 1 => differences (oldLine + 1) (newLine + 1) rest fuel
  | all, fuel + 1 =>
    let here := all.takeWhile fun (isOld, isNew, _) => !(isOld && isNew)
    let old := here.filterMap fun (isOld, _, line) => if isOld then some line else none
    let new := here.filterMap fun (_, isNew, line) => if isNew then some line else none
    ⟨oldLine, newLine, old, new⟩ ::
      differences (oldLine + old.length) (newLine + new.length) (all.drop here.length) fuel

def lineRange (first count : Nat) : String :=
  if count ≤ 1 then toString first else s!"{first},{first + count - 1}"

def Difference.lines (d : Difference) : List String :=
  let old := d.old.map ("< " ++ ·)
  let new := d.new.map ("> " ++ ·)
  if d.new.isEmpty then
    (lineRange d.oldLine d.old.length ++ s!"d{d.newLine - 1}") :: old
  else if d.old.isEmpty then
    (s!"{d.oldLine - 1}a" ++ lineRange d.newLine d.new.length) :: new
  else
    (lineRange d.oldLine d.old.length ++ "c" ++ lineRange d.newLine d.new.length) ::
      old ++ ["---"] ++ new

/-- Lines for a comparison; one that is not ended differs from one that is. -/
def comparedLines (text : String) : List String :=
  let lines := linesOf text
  if text.isEmpty || text.endsWith "\n" then lines
  else lines.dropLast ++ (lines.getLast?.map (· ++ "\n\\ No newline at end of file")).toList

def compareLines (args : List String) : Act Nat :=
  withOptions "diff" [⟨'q', "brief", false⟩, ⟨'s', "", false⟩, ⟨'r', "", false⟩, ⟨'N', "", false⟩] 2
    args fun r =>
      match r.operands with
      | [first, second] => do
        let some (a, b) ← readPair? "diff" first second | return 2
        if a = b then return 0
        if r.has 'q' then writeLine s!"Files {first} and {second} differ"
        else
          let as := comparedLines a
          let bs := comparedLines b
          let all := steps as bs (rows as bs) 0 (as.length + bs.length + 1)
          writeLines ((differences 1 1 all (all.length + 1)).flatMap Difference.lines)
        return 1
      | _ => misuse "diff" "missing operand" 2

end Scaffold.Shell.Utility
