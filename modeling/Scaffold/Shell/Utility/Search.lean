import Scaffold.Shell.Regex.Reader
import Scaffold.Shell.Utility.Basic

/-!
A program that looks for lines with matches.
-/
namespace Scaffold.Shell.Utility

open Act

structure Search where
  request : Request
  regex : Regex
  isNamed : Bool

namespace Search

def has (x : Search) (letter : Char) : Bool := x.request.has letter

def number? (x : Search) (letter : Char) : Option Nat :=
  (x.request.value? letter).bind String.toNat?

def subject (x : Search) (line : String) : Regex.Subject :=
  .ofText line (x.has 'i' || x.has 'y')

/-- Whether a match counts: it may have to be a whole line, or to stand between words. -/
def accepts (x : Search) (s : Regex.Subject) (first last : Nat) : Bool :=
  (!x.has 'x' || (first = 0 && last = s.size)) &&
    (!x.has 'w' || (!(0 < first && s.isWordAt (first - 1)) && !s.isWordAt last))

def selects (x : Search) (line : String) : Bool :=
  let s := x.subject line
  (Regex.find? x.regex s (x.accepts s) 0).isSome != x.has 'v'

def found (x : Search) (s : Regex.Subject) (first : Nat) : Nat → List String
  | 0 => []
  | fuel + 1 =>
    match Regex.find? x.regex s (x.accepts s) first with
    | none => []
    | some m =>
      if m.first = m.last then found x s (m.last + 1) fuel
      else String.ofList (s.slice m.first m.last) :: found x s m.last fuel

def front (x : Search) (name : String) (index : Nat) (sign : String) : String :=
  (if x.isNamed then name ++ sign else "") ++
    (if x.has 'n' then toString (index + 1) ++ sign else "")

def shownLines (x : Search) (name : String) (lines : List String) (selected : List Nat) :
    List String :=
  let around := x.number? 'C'
  let before := (x.number? 'B' <|> around).getD 0
  let after := (x.number? 'A' <|> around).getD 0
  let hasContext := 0 < before || 0 < after
  let isNear (i : Nat) : Bool := selected.any fun j => i ≤ j + after && j ≤ i + before
  let near := lines.zipIdx.filter fun (_, i) => isNear i
  (near.foldl (fun (shown, last) (line, i) =>
    let isSelected := selected.contains i
    let text := x.front name i (if isSelected then ":" else "-") ++ line
    let gap := hasContext && last.any fun j => j + 1 < i
    ((if gap then [text, "--"] else [text]) ++ shown, some i)) ([], (none : Option Nat))).1.reverse

def showIn (x : Search) (name text : String) : Act Bool := do
  let lines := linesOf text
  let all := (lines.zipIdx.filter fun (line, _) => x.selects line).map (·.2)
  let selected := (x.number? 'm').elim all all.take
  let isFound := !selected.isEmpty
  if x.has 'q' then return isFound
  if x.has 'l' || x.has 'L' then
    if isFound != x.has 'L' then writeLine name
  else if x.has 'c' then writeLine ((if x.isNamed then name ++ ":" else "") ++ toString selected.length)
  else if x.has 'o' then
    lines.zipIdx.forM fun (line, i) => do
      if selected.contains i && !x.has 'v' then
        let s := x.subject line
        (x.found s 0 (s.size + 2)).forM fun m => writeLine (x.front name i ":" ++ m)
  else writeLines (x.shownLines name lines selected)
  return isFound

end Search

def searchFlags : List Flag :=
  [⟨'i', "ignore-case", false⟩, ⟨'v', "invert-match", false⟩, ⟨'c', "count", false⟩,
    ⟨'n', "line-number", false⟩, ⟨'l', "files-with-matches", false⟩,
    ⟨'L', "files-without-match", false⟩, ⟨'q', "quiet", false⟩, ⟨'s', "no-messages", false⟩,
    ⟨'o', "only-matching", false⟩, ⟨'w', "word-regexp", false⟩, ⟨'x', "line-regexp", false⟩,
    ⟨'F', "fixed-strings", false⟩, ⟨'E', "extended-regexp", false⟩, ⟨'G', "basic-regexp", false⟩,
    ⟨'e', "regexp", true⟩, ⟨'f', "file", true⟩, ⟨'h', "no-filename", false⟩,
    ⟨'H', "with-filename", false⟩, ⟨'r', "recursive", false⟩, ⟨'R', "", false⟩,
    ⟨'m', "max-count", true⟩, ⟨'A', "after-context", true⟩, ⟨'B', "before-context", true⟩,
    ⟨'C', "context", true⟩, ⟨'a', "text", false⟩, ⟨'z', "", false⟩, ⟨'y', "", false⟩]

def readPatterns (isExtended isFixed : Bool) (texts : List String) :
    Except Regex.Fault Regex := do
  let patterns := texts.flatMap fun t => (t.toList.splitOn '\n').map String.ofList
  let all ← patterns.mapM fun p =>
    if isFixed then pure (Regex.literal p) else (·.1) <$> Regex.ofText isExtended p
  match all with
  | [] => return .oneOf false [] []
  | r :: rs => return rs.foldl .either r

def filesBelow (paths : List String) : Act (List String) := do
  let m ← get
  return paths.flatMap fun path =>
    match Files.locate m.commons.files m.own.directory (systemPath path) with
    | .ok place =>
      if m.commons.files.isDirectory place then
        (m.commons.files.below place).filterMap fun (p, e) =>
          let inner := String.intercalate "/" (p.drop place.length)
          if e matches .file .. then some (path ++ "/" ++ ByteText.ofText inner) else none
      else [path]
    | .error _ => [path]

def grep (isExtended isFixed : Bool) (args : List String) : Act Nat :=
  withOptions "grep" searchFlags 2 args fun r => do
    let given := r.values 'e'
    let stored ← (r.values 'f').mapM readPath
    let stored := stored.filterMap fun t => t.toOption.map fun t =>
      if t.endsWith "\n" then (t.dropEnd 1).toString else t
    let isGiven := !given.isEmpty || r.has 'f'
    if !isGiven && r.operands.isEmpty then
      complain "Usage: grep [OPTION]... PATTERNS [FILE]..."
      complain "Try 'grep --help' for more information."
      return 2
    let texts := if isGiven then given ++ stored else r.operands.take 1
    let paths := if isGiven then r.operands else r.operands.drop 1
    match readPatterns (isExtended || r.has 'E') (isFixed || r.has 'F') texts with
    | .error f => do
      complain s!"grep: {f.message}"
      return 2
    | .ok regex => do
      let isDeep := r.has 'r' || r.has 'R'
      let roots := if paths.isEmpty then [if isDeep then "." else "-"] else paths
      let all ← if isDeep then filesBelow roots else pure roots
      let isNamed := (r.has 'H' || 1 < roots.length || isDeep) && !r.has 'h'
      let x : Search := ⟨r, regex, isNamed⟩
      let results ← all.mapM fun path => do
        match ← readPath path with
        | .ok text => return some (← x.showIn (if path = "-" then "(standard input)" else path) text)
        | .error f => do
          if !r.has 's' then complain s!"grep: {path}: {f.text}"
          return none
      let isFound := results.any (· = some true)
      if isFound && r.has 'q' then return 0
      if results.any (·.isNone) then return 2
      ofBool isFound

end Scaffold.Shell.Utility
