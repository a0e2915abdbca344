import Scaffold.Shell.Regex.Reader
import Scaffold.Shell.Utility.Basic

/-!
A program that edits texts line by line.
-/
namespace Scaffold.Shell

namespace Editing

inductive Address where
  | line (n : Nat)
  | last
  | found (r : Regex) (ignoresCase : Bool)
  /-- The line with a number and each line that is so many lines after one of them. -/
  | every (first step : Nat)

inductive Extent where
  | address (a : Address)
  | more (n : Nat)

structure Where where
  first : Option Address
  extent : Option Extent
  isTurned : Bool

inductive Piece where
  | text (c : Char)
  | group (n : Nat)

structure Substitution where
  regex : Regex
  ignoresCase : Bool
  replacement : List Piece
  isGlobal : Bool
  number : Nat
  prints : Bool

inductive Edit where
  | substitute (s : Substitution)
  | replaceChars (pairs : List (Char × Char))
  | delete
  | deleteFirst
  | print
  | printFirst
  | showNumber
  | next
  | join
  | quit (code : Nat) (isQuiet : Bool)
  | insert (text : String)
  | append (text : String)
  | change (text : String)
  | keep (adds : Bool)
  | recall (adds : Bool)
  | exchange
  | block (edits : List (Nat × Where × Edit))

abbrev Edits := List (Nat × Where × Edit)

/-! Reading. -/

structure Malformed where
  place : Nat
  text : String

structure Reader where
  rest : List Char
  size : Nat
  isExtended : Bool
  number : Nat

abbrev Reading := StateT Reader (Except Malformed)

def fail (text : String) : Reading α := do
  let c ← get
  throw ⟨c.size - c.rest.length, text⟩

def failAtEnd (text : String) : Reading α := do
  throw ⟨(← get).size, text⟩

def goTo (rest : List Char) : Reading Unit := modify fun c => { c with rest := rest }

def skip (isSkipped : Char → Bool) : Reading Unit :=
  modify fun c => { c with rest := c.rest.dropWhile isSkipped }

def isBlank (c : Char) : Bool := c = ' ' || c = '\t'

/-- The text up to a sign, which may be quoted by a backslash, and what follows. -/
def delimited? (sign : Char) (inBrackets : Bool) : List Char → Option (List Char × List Char)
  | [] => none
  | '\\' :: c :: s =>
    if inBrackets then (delimited? sign true (c :: s)).map fun (t, r) => ('\\' :: t, r)
    else
      (delimited? sign false s).map fun (t, r) =>
        (if c = sign then (c :: t, r) else if c = 'n' then ('\n' :: t, r) else ('\\' :: c :: t, r))
  | c :: s =>
    if c = sign && !inBrackets then some ([], s)
    else
      let isIn := if inBrackets then c ≠ ']' else false
      (delimited? sign isIn s).map fun (t, r) => (c :: t, r)

def regex (text : List Char) : Reading Regex := do
  match Regex.ofText (← get).isExtended (String.ofList text) with
  | .ok (r, _) => return r
  | .error f => fail f.message

def number? : Reading (Option Nat) := do
  let c ← get
  let ds := c.rest.takeWhile Char.isDigit
  goTo (c.rest.drop ds.length)
  return (String.ofList ds).toNat?

def address? : Reading (Option Address) := do
  let c ← get
  match c.rest with
  | '$' :: rest => do
    goTo rest
    return some .last
  | '/' :: rest => do
    match delimited? '/' false rest with
    | none => failAtEnd "unterminated address regex"
    | some (text, rest) => do
      let r ← regex text
      goTo (if rest.head? = some 'I' then rest.drop 1 else rest)
      return some (.found r (rest.head? = some 'I'))
  | _ =>
    match ← number? with
    | none => return none
    | some n =>
      match (← get).rest with
      | '~' :: rest => do
        goTo rest
        return some (.every n ((← number?).getD 0))
      | _ => return some (.line n)

def lines : Reading Where := do
  let first ← address?
  skip isBlank
  let extent ← match first, (← get).rest with
    | some _, ',' :: rest => do
      goTo rest
      skip isBlank
      match (← get).rest with
      | '+' :: rest => do
        goTo rest
        pure (some (.more ((← number?).getD 0)))
      | _ =>
        match ← address? with
        | some a => pure (some (.address a))
        | none => fail "unexpected \x60,'"
    | _, _ => pure none
  skip isBlank
  let isTurned := (← get).rest.head? = some '!'
  if isTurned then skip fun c => c = '!' || isBlank c
  return ⟨first, extent, isTurned⟩

/-- The pieces of a text that replaces something, in which an ampersand stands for a match. -/
def pieces : List Char → List Piece
  | [] => []
  | '\\' :: c :: s =>
    let p : Piece :=
      if c.isDigit then .group (c.toNat - '0'.toNat)
      else if c = 't' then .text '\t'
      else .text c
    p :: pieces s
  | '&' :: s => .group 0 :: pieces s
  | c :: s => .text c :: pieces s

def substitution : Reading Edit := do
  let sign :: rest := (← get).rest | failAtEnd "unterminated \x60s' command"
  let unended : Reading Edit := failAtEnd "unterminated \x60s' command"
  match delimited? sign false rest with
  | none => unended
  | some (pattern, rest) =>
    match delimited? sign false rest with
    | none => unended
    | some (replacement, rest) => do
      let r ← regex pattern
      let flags := rest.takeWhile fun c => c.isDigit || "gpIie".contains c
      goTo (rest.drop flags.length)
      let number := (String.ofList (flags.filter Char.isDigit)).toNat?.getD 1
      return .substitute
        { regex := r, ignoresCase := flags.any fun c => c = 'I' || c = 'i'
          replacement := pieces replacement, isGlobal := flags.contains 'g', number := number
          prints := flags.contains 'p' }

/-- The text of an edit, which goes to the end of its line; backslashes continue it. -/
def lineText : Reading String := do
  skip isBlank
  let rest := (← get).rest
  let rest := match rest with
    | '\\' :: '\n' :: rest => rest
    | '\\' :: rest => rest.dropWhile isBlank
    | rest => rest
  let rec split : List Char → List Char × List Char
    | [] => ([], [])
    | '\\' :: c :: s =>
      let (t, r) := split s
      (c :: t, r)
    | '\n' :: s => ([], '\n' :: s)
    | c :: s =>
      let (t, r) := split s
      (c :: t, r)
  let (text, rest) := split rest
  goTo rest
  return String.ofList text

def edit (inner : Reading Edits) : Reading Edit := do
  let c :: rest := (← get).rest | failAtEnd "missing command"
  goTo rest
  match c with
  | 's' => substitution
  | 'y' => do
    let sign :: rest := rest | fail "strings for \x60y' command are different lengths"
    match delimited? sign false rest with
    | none => failAtEnd "unterminated \x60y' command"
    | some (old, rest) =>
      match delimited? sign false rest with
      | none => failAtEnd "unterminated \x60y' command"
      | some (new, rest) => do
        if old.length ≠ new.length then fail "strings for \x60y' command are different lengths"
        goTo rest
        return .replaceChars (old.zip new)
  | 'd' => return .delete
  | 'D' => return .deleteFirst
  | 'p' => return .print
  | 'P' => return .printFirst
  | '=' => return .showNumber
  | 'n' => return .next
  | 'N' => return .join
  | 'h' => return .keep false
  | 'H' => return .keep true
  | 'g' => return .recall false
  | 'G' => return .recall true
  | 'x' => return .exchange
  | 'q' => do
    skip isBlank
    return .quit ((← number?).getD 0) false
  | 'Q' => do
    skip isBlank
    return .quit ((← number?).getD 0) true
  | 'i' => return .insert (← lineText)
  | 'a' => return .append (← lineText)
  | 'c' => return .change (← lineText)
  | '\x7b' => return .block (← inner)
  | c => fail s!"unknown command: \x60{c}'"

def edits (isInner : Bool) : Nat → Reading Edits
  | 0 => return []
  | fuel + 1 => do
    skip fun c => isBlank c || c = '\n' || c = ';'
    match (← get).rest with
    | [] => if isInner then throw ⟨0, "unmatched \x60\x7b'"⟩ else return []
    | '#' :: _ => do
      skip (· ≠ '\n')
      edits isInner fuel
    | '\x7d' :: rest => do
      goTo rest
      if isInner then return [] else fail "unexpected \x60\x7d'"
    | _ => do
      let place ← lines
      let number := (← get).number + 1
      modify fun c => { c with number := number }
      let e ← edit (edits true fuel)
      skip isBlank
      match (← get).rest with
      | [] | '\n' :: _ | ';' :: _ | '\x7d' :: _ | '#' :: _ => pure ()
      | _ :: rest => do
        if !(e matches .block _) then
          goTo rest
          fail "extra characters after command"
      return (number, place, e) :: (← edits isInner fuel)

def ofText (isExtended : Bool) (text : String) : Except Malformed Edits := do
  let s := text.toList
  let (es, _) ← (edits false (s.length + 2)).run ⟨s, s.length, isExtended, 0⟩
  return es

/-! Editing. -/

structure Editor where
  rest : List String
  number : Nat
  line : String
  kept : String
  output : List String
  after : List String
  /-- The ranges that have begun, each with the line that it ends in if that is known. -/
  started : List (Nat × Option Nat)
  isQuiet : Bool

inductive Ending where
  | goOn
  | dropped
  | restart
  | quit (code : Nat) (isQuiet : Bool)

def Editor.put (e : Editor) (text : String) : Editor := { e with output := text :: e.output }

def Address.holds (a : Address) (e : Editor) : Bool :=
  match a with
  | .line n => e.number = n
  | .last => e.rest.isEmpty
  | .found r ignoresCase =>
    (Regex.find? r (.ofText e.line ignoresCase) (fun _ _ => true) 0).isSome
  | .every first step =>
    if step = 0 then e.number = first else first ≤ e.number && (e.number - first) % step = 0

def Where.holds (w : Where) (id : Nat) (e : Editor) : Bool × Editor :=
  let (isIn, e) := match w.first, w.extent with
    | none, _ => (true, e)
    | some a, none => (a.holds e, e)
    | some a, some extent =>
      match e.started.lookup id with
      | some last =>
        let isOver : Bool := match last, extent with
          | some n, _ => n ≤ e.number
          | none, .address b => b.holds e
          | none, .more _ => true
        let isIn := last.all fun n => e.number ≤ n
        let others := e.started.filter (·.1 ≠ id)
        (isIn || a.holds e, if isOver then { e with started := others } else e)
      | none =>
        if !a.holds e then (false, e)
        else
          let last? : Option (Option Nat) := match extent with
            | .address (.line n) => if n ≤ e.number then none else some (some n)
            | .address _ => some none
            | .more n => if n = 0 then none else some (some (e.number + n))
          (true, last?.elim e fun last => { e with started := (id, last) :: e.started })
  (isIn != w.isTurned, e)

def substituted? (s : Substitution) (text : String) : Option String :=
  let subject := Regex.Subject.ofText text s.ignoresCase
  let (parts, isChanged) := further subject 0 1 none (subject.size + 2)
  if isChanged then some (String.ofList parts) else none
where
  /-- Goes on at a place with the number of the next match; `last` is where the last one has ended. -/
  further (subject : Regex.Subject) (place count : Nat) (last : Option Nat) :
      Nat → List Char × Bool
    | 0 => (subject.slice place subject.size, false)
    | fuel + 1 =>
      match Regex.find? s.regex subject (fun _ _ => true) place with
      | none => (subject.slice place subject.size, false)
      | some m =>
        let isRepeated := m.first = m.last && last = some m.first
        let before := subject.slice place m.first
        let isReplaced := !isRepeated && (count = s.number || (s.isGlobal && s.number ≤ count))
        let new : List Char :=
          if isReplaced then
            s.replacement.flatMap fun
              | .text c => [c]
              | .group n => m.text subject n
          else subject.slice m.first m.last
        let step := if m.first = m.last then subject.slice m.last (m.last + 1) else []
        let next := if m.first = m.last then m.last + 1 else m.last
        let count := if isRepeated then count else count + 1
        if subject.size < next || (isReplaced && !s.isGlobal) then
          (before ++ new ++ step ++ subject.slice next subject.size, isReplaced)
        else
          let (rest, isChanged) := further subject next count (some m.last) fuel
          (before ++ new ++ step ++ rest, isReplaced || isChanged)

/-- Shows the line, unless only what is asked for is shown, and what follows it. -/
def Editor.endLine (e : Editor) (isShown : Bool) : Editor :=
  let e := if isShown && !e.isQuiet then e.put e.line else e
  { e with output := e.after.reverse ++ e.output, after := [] }

def Editor.firstLine (e : Editor) : String := String.ofList (e.line.toList.takeWhile (· ≠ '\n'))

def Edit.make (edit : Edit) (isLastOfRange : Bool) (e : Editor) : Editor × Ending :=
  match edit with
  | .substitute s =>
    match substituted? s e.line with
    | none => (e, .goOn)
    | some line =>
      let e := { e with line := line }
      (if s.prints then e.put line else e, .goOn)
  | .replaceChars pairs =>
    ({ e with line := String.ofList (e.line.toList.map fun c => (pairs.lookup c).getD c) }, .goOn)
  | .delete => (e, .dropped)
  | .deleteFirst =>
    if e.line.toList.contains '\n' then
      ({ e with line := String.ofList ((e.line.toList.dropWhile (· ≠ '\n')).drop 1) }, .restart)
    else (e, .dropped)
  | .print => (e.put e.line, .goOn)
  | .printFirst => (e.put e.firstLine, .goOn)
  | .showNumber => (e.put (toString e.number), .goOn)
  | .next =>
    match e.rest with
    | [] => (e, .quit 0 false)
    | line :: rest => ({ e.endLine true with line := line, rest := rest, number := e.number + 1 }, .goOn)
  | .join =>
    match e.rest with
    | [] => (e, .quit 0 false)
    | line :: rest =>
      ({ e with line := e.line ++ "\n" ++ line, rest := rest, number := e.number + 1 }, .goOn)
  | .quit code isQuiet => (e, .quit code isQuiet)
  | .insert text => (e.put text, .goOn)
  | .append text => ({ e with after := e.after ++ [text] }, .goOn)
  | .change text => (if isLastOfRange then e.put text else e, .dropped)
  | .keep adds => ({ e with kept := if adds then e.kept ++ "\n" ++ e.line else e.line }, .goOn)
  | .recall adds => ({ e with line := if adds then e.line ++ "\n" ++ e.kept else e.kept }, .goOn)
  | .exchange => ({ e with line := e.kept, kept := e.line }, .goOn)
  | .block _ => (e, .goOn)

def make (es : Edits) (e : Editor) : Nat → Editor × Ending
  | 0 => (e, .goOn)
  | fuel + 1 =>
    match es with
    | [] => (e, .goOn)
    | (id, place, edit) :: rest =>
      let (isIn, e) := place.holds id e
      if !isIn then make rest e fuel
      else
        let isLastOfRange := place.extent.isNone || !e.started.any (·.1 = id)
        let (e, ending) := match edit with
          | .block inner => make inner e fuel
          | edit => edit.make isLastOfRange e
        match ending with
        | .goOn => make rest e fuel
        | ending => (e, ending)

def eachLine (es : Edits) (depth : Nat) (e : Editor) : Nat → Editor × Nat
  | 0 => (e, 0)
  | fuel + 1 =>
    let (e, ending) := make es e depth
    let next (e : Editor) : Editor × Nat :=
      match e.rest with
      | [] => (e, 0)
      | line :: rest =>
        eachLine es depth { e with line := line, rest := rest, number := e.number + 1 } fuel
    match ending with
    | .goOn => next (e.endLine true)
    | .dropped => next (e.endLine false)
    | .restart => eachLine es depth (e.endLine false) fuel
    | .quit code isQuiet => (if isQuiet then e else e.endLine true, code)

def edited (es : Edits) (depth : Nat) (isQuiet : Bool) (lines : List String) : List String × Nat :=
  match lines with
  | [] => ([], 0)
  | line :: rest =>
    let e : Editor :=
      { rest := rest, number := 1, line := line, kept := "", output := [], after := [], started := []
        isQuiet := isQuiet }
    let size := (lines.map (·.length + 1)).foldl (· + ·) 0
    let (e, code) := eachLine es depth e (2 * size + 2)
    (e.output.reverse, code)

end Editing

namespace Utility

open Act

def sed (args : List String) : Act Nat :=
  let known := [⟨'n', "quiet", false⟩, ⟨'e', "expression", true⟩, ⟨'E', "regexp-extended", false⟩,
    ⟨'r', "", false⟩, ⟨'i', "in-place", false⟩, ⟨'s', "separate", false⟩, ⟨'f', "file", true⟩,
    ⟨'u', "", false⟩]
  withOptions "sed" known 1 args fun r => do
    let stored ← (r.values 'f').mapM readPath
    let given := r.values 'e' ++ stored.filterMap (·.toOption)
    if given.isEmpty && r.operands.isEmpty then
      complain "Usage: sed [OPTION]... \x7bscript-only-if-no-other-script\x7d [input-file]..."
      return 1
    let text := if given.isEmpty then r.operands.headD "" else String.intercalate "\n" given
    let paths := if given.isEmpty then r.operands.drop 1 else r.operands
    match Editing.ofText (r.has 'E' || r.has 'r') text with
    | .error e => do
      complain s!"sed: -e expression #1, char {e.place}: {e.text}"
      return 1
    | .ok es => do
      let isQuiet := r.has 'n'
      let complaint (path : String) (f : SystemFault) : String :=
        if f = .isADirectory then s!"sed: couldn't edit {path}: not a regular file"
        else s!"sed: can't read {path}: {f.text}"
      /- The last line of a text only ends in a line break when it did before. -/
      let joined (lines : List String) (whole : String) : String :=
        let text := String.join (lines.map (· ++ "\n"))
        if whole.endsWith "\n" || text.isEmpty then text else (text.dropEnd 1).toString
      let depth := text.length + 4
      if r.has 'i' then
        let codes ← paths.mapM fun path => do
          match ← readPath path with
          | .error f => do
            complain (complaint path f)
            return if f = .isADirectory then 4 else 2
          | .ok whole => do
            let (lines, code) := Editing.edited es depth isQuiet (linesOf whole)
            let new := joined lines whole
            let _ ← onFiles fun here => Files.write here (systemPath path) ⟨(ByteText.bytes new).toArray⟩
            return code
        return codes.foldl max 0
      else
        let (texts, isComplete) ← readPaths paths fun path f =>
          if f = .isADirectory then s!"sed: read error on {path}: {f.text}" else complaint path f
        let whole := String.join (texts.map (·.2))
        let (lines, code) := Editing.edited es depth isQuiet (texts.flatMap fun (_, t) => linesOf t)
        writeText (joined lines whole)
        return if isComplete then code else 2

end Utility

end Scaffold.Shell
