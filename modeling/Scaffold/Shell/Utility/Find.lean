import Scaffold.Shell.Glob
import Scaffold.Shell.Utility.Launch

/-!
A program that walks through directories and does something with the entries that meet a condition.
-/
namespace Scaffold.Shell

namespace Finding

inductive Condition where
  | name (p : List Mark) (ignoresCase : Bool)
  | path (p : List Mark)
  | kind (letter : Char)
  | isVacant
  | always (holds : Bool)
  | not (c : Condition)
  | both (a b : Condition)
  | either (a b : Condition)
  | print (ending : String)
  | remove
  | launch (words : List String)

inductive Fault where
  | unknown (word : String)
  | missing (word : String)
  | badKind (text : String)

def Fault.message : Fault → String
  | unknown word => s!"unknown predicate '{word}'"
  | missing word => s!"missing argument to '{word}'"
  | badKind text => s!"Unknown argument to -type: {text}"

abbrev Reading := StateT (List String) (Except Fault)

def argument (word : String) : Reading String := do
  match ← get with
  | a :: rest => do
    set rest
    return a
  | [] => throw (.missing word)

mutual

def either : Nat → Reading Condition
  | 0 => return .always true
  | fuel + 1 => do
    let a ← both fuel
    match ← get with
    | "-o" :: rest | "-or" :: rest => do
      set rest
      return .either a (← either fuel)
    | _ => return a

def both : Nat → Reading Condition
  | 0 => return .always true
  | fuel + 1 => do
    let a ← single fuel
    match ← get with
    | [] | ")" :: _ | "-o" :: _ | "-or" :: _ => return a
    | "-a" :: rest | "-and" :: rest => do
      set rest
      return .both a (← both fuel)
    | _ => return .both a (← both fuel)

def single : Nat → Reading Condition
  | 0 => return .always true
  | fuel + 1 => do
    match ← get with
    | [] => return .always true
    | word :: rest => do
      set rest
      match word with
      | "!" | "-not" => return .not (← single fuel)
      | "(" => do
        let c ← either fuel
        modify (·.drop 1)
        return c
      | "-name" => return .name (Glob.marks (← argument word) false) false
      | "-iname" => return .name (Glob.marks (← argument word) false) true
      | "-path" => return .path (Glob.marks (← argument word) false)
      | "-type" => do
        let text ← argument word
        match text.toList with
        | [c] => return .kind c
        | _ => throw (.badKind text)
      | "-empty" => return .isVacant
      | "-true" => return .always true
      | "-false" => return .always false
      | "-print" => return .print "\n"
      | "-print0" => return .print "\x00"
      | "-delete" => return .remove
      | "-exec" => do
        let words := (← get).takeWhile fun w => w ≠ ";" && w ≠ "+"
        modify (·.drop (words.length + 1))
        return .launch words
      | word => throw (.unknown word)

end

def Condition.acts : Condition → Bool
  | .print _ | .remove | .launch _ => true
  | .not c => c.acts
  | .both a b | .either a b => a.acts || b.acts
  | _ => false

end Finding

namespace Utility

open Act

structure Visited where
  path : String
  place : Location
  entry : Entry
  depth : Nat

def lowerMarks (p : List Mark) : List Mark := p.map fun m => { m with char := m.char.toLower }

/-- Whether a condition holds of an entry; some of them do something with it. -/
def meets (launch : Launch) (v : Visited) : Finding.Condition → Act Bool
  | .name p ignoresCase =>
    let name := ((Path.parts v.path).getLast?.getD v.path).toList
    return if ignoresCase then Glob.holds (lowerMarks p) (name.map Char.toLower)
      else Glob.holds p name
  | .path p => return Glob.holds p v.path.toList
  | .kind letter =>
    return match v.entry with
      | .directory => letter = 'd'
      | .file .. => letter = 'f'
      | .link _ => letter = 'l'
  | .isVacant => do
    let t := (← commons).files
    return match v.entry with
      | .directory => t.isEmptyAt v.place
      | .file bytes _ => bytes.size = 0
      | .link _ => false
  | .always holds => return holds
  | .not c => return !(← meets launch v c)
  | .both a b => do
    if ← meets launch v a then meets launch v b else return false
  | .either a b => do
    if ← meets launch v a then return true else meets launch v b
  | .print ending => do
    writeText (v.path ++ ending)
    return true
  | .remove => do
    modifyCommons fun c => { c with files := c.files.erase v.place }
    return true
  | .launch words => do
    let words := words.map fun (w : String) => w.replace "\x7b\x7d" v.path
    let code ← launchFor launch (fun name => s!"find: {quoted name}") words
    return code = 0

/-- The entries from a path on, with their paths, the directories before what is in them. -/
def visited (t : FileTree) (place : Location) (path : String) : List Visited :=
  let front := if path.endsWith "/" then path else path ++ "/"
  let inner := (t.below place).map fun (p, e) =>
    let names := p.drop place.length
    ⟨front ++ ByteText.ofText (String.intercalate "/" names), p, e, names.length⟩
  ⟨path, place, (t.find? place).getD .directory, 0⟩ :: inner

def findEntries (launch : Launch) (args : List String) : Act Nat := do
  let isStart (arg : String) : Bool := arg.startsWith "-" || arg = "(" || arg = "!"
  let roots := args.takeWhile (!isStart ·)
  let words := args.drop roots.length
  let limit? (name : String) : Option Nat :=
    (words.idxOf? name).bind fun i => (words[i + 1]?).bind String.toNat?
  let rec without : List String → List String
    | "-maxdepth" :: _ :: ws | "-mindepth" :: _ :: ws => without ws
    | w :: ws => w :: without ws
    | [] => []
  match (Finding.either (4 * words.length + 4)).run (without words) with
  | .error f => do
    complain s!"find: {f.message}"
    return 1
  | .ok (c, _) => do
    let c := if c.acts then c else .both c (.print "\n")
    let isDeepFirst := words.contains "-delete" || words.contains "-depth"
    let codes ← (if roots.isEmpty then ["."] else roots).mapM fun root => do
      let m ← get
      match Files.locateEntry m.commons.files m.own.directory (systemPath root) with
      | .error f => do
        complain s!"find: {quoted root}: {f.text}"
        return 1
      | .ok place => do
        let all := (visited m.commons.files place root).filter fun v =>
          (limit? "-maxdepth").all (v.depth ≤ ·) && (limit? "-mindepth").all (· ≤ v.depth)
        (if isDeepFirst then all.reverse else all).forM fun v => do
          let _ ← meets launch v c
        return 0
    return codes.foldl max 0

end Utility

end Scaffold.Shell
