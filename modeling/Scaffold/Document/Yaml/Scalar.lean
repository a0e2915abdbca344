import Scaffold.Document.Yaml.Cursor

/-!
The three ways of writing a scalar in YAML: in quotes, as a block of lines, and plain.
-/
namespace Scaffold.Document.Yaml

inductive ScalarStyle where
  | plain
  | quoted
  | literal
  | folded
  deriving DecidableEq, Repr

/-! Quoted scalars. -/

namespace Quoted

def hexDigit? (c : Char) : Option Nat :=
  if c.isDigit then some (c.toNat - '0'.toNat)
  else if 'a' ≤ c && c ≤ 'f' then some (c.toNat - 'a'.toNat + 10)
  else if 'A' ≤ c && c ≤ 'F' then some (c.toNat - 'A'.toNat + 10)
  else none

def numbered? (width : Nat) (s : List Char) : Option Char := do
  let ds ← (s.take width).mapM hexDigit?
  let n := ds.foldl (fun n d => 16 * n + d) 0
  if ds.length = width && n.isValidChar then some (Char.ofNat n) else none

def escape? (c : Char) (s : List Char) : Option (Char × Nat) :=
  match c with
  | '0' => some ('\x00', 0)
  | 'a' => some ('\x07', 0)
  | 'b' => some ('\x08', 0)
  | 't' | '\t' => some ('\t', 0)
  | 'n' => some ('\n', 0)
  | 'v' => some ('\x0b', 0)
  | 'f' => some ('\x0c', 0)
  | 'r' => some ('\r', 0)
  | 'e' => some ('\x1b', 0)
  | ' ' => some (' ', 0)
  | '"' => some ('"', 0)
  | '/' => some ('/', 0)
  | '\\' => some ('\\', 0)
  | 'N' => some ('\u0085', 0)
  | '_' => some ('\u00a0', 0)
  | 'L' => some ('\u2028', 0)
  | 'P' => some ('\u2029', 0)
  | 'x' => (numbered? 2 s).map (·, 2)
  | 'u' => (numbered? 4 s).map (·, 4)
  | 'U' => (numbered? 8 s).map (·, 8)
  | _ => none

def stretch (single : Bool) (c : Cursor) : Nat → Option (List Char × Bool × Cursor)
  | 0 => none
  | fuel + 1 =>
    let put (text : List Char) (c : Cursor) := do
      let (more, broken, c) ← stretch single c fuel
      return (text ++ more, broken, c)
    match c.rest with
    | [] => some ([], false, c)
    | a :: s =>
      if isBlank a || isBreak a then some ([], false, c)
      else if single then
        if a = '\'' then
          if s.head? = some '\'' then put ['\''] (c.skip 2) else some ([], false, c)
        else put [a] c.next
      else if a = '"' then some ([], false, c)
      else if a = '\\' then
        match s with
        | [] => none
        | e :: s =>
          if isBreak e then some ([], true, c.next.nextLine.2)
          else do
            let (x, digits) ← escape? e s
            put [x] (c.skip (2 + digits))
      else put [a] c.next

/-- The text of a quoted scalar after its opening quote, and what follows its closing quote. There is
more fuel than there are characters left, and each piece takes at least one of them. -/
def read (single : Bool) (c : Cursor) : Nat → Option (List Char × Cursor)
  | 0 => none
  | fuel + 1 => do
    if c.atDocumentMark || c.rest.isEmpty then none
    let (text, broken, c) ← stretch single c fuel
    if c.head? = some (if single then '\'' else '"') && !broken then return (text, c.next)
    let (fold, c) ← Fold.read 0 { Fold.none with hasBreak := broken } c fuel
    if c.rest.isEmpty then none
    let (more, c) ← read single c fuel
    return (text ++ fold.text ++ more, c)

end Quoted

/-! Plain scalars. -/

namespace Plain

def isFlowMark (c : Char) : Bool :=
  c = ',' || c = '[' || c = ']' || c = '{' || c = '}'

def stretch (inFlow : Bool) (c : Cursor) : Nat → Option (List Char × Cursor)
  | 0 => some ([], c)
  | fuel + 1 =>
    match c.rest with
    | [] => some ([], c)
    | a :: s =>
      if isBlank a || isBreak a then some ([], c)
      else if inFlow && a = ':' && s.head?.any (fun b => b = '?' || isFlowMark b) then none
      else if (a = ':' && isGap s) || (inFlow && isFlowMark a) then some ([], c)
      else do
        let (text, c) ← stretch inFlow c.next fuel
        return (a :: text, c)

def read (inFlow : Bool) (indent : Nat) (pending : Fold) (c : Cursor) :
    Nat → Option (List Char × Bool × Cursor)
  | 0 => none
  | fuel + 1 => do
    if c.atDocumentMark || c.head? = some '#' then return ([], pending.hasBreak, c)
    let (text, c) ← stretch inFlow c fuel
    if text.isEmpty then
      if !(c.atBlank || c.atBreak) then return ([], pending.hasBreak, c)
    let front := if text.isEmpty then [] else pending.text
    let before := if text.isEmpty then pending else Fold.none
    if !(c.atBlank || c.atBreak) then return (front ++ text, before.hasBreak, c)
    let (fold, c) ← Fold.read indent before c fuel
    if !inFlow && c.column < indent then return (front ++ text, fold.hasBreak, c)
    let (more, broken, c) ← read inFlow indent fold c fuel
    return (front ++ text ++ more, broken, c)

end Plain

/-! Blocks of lines. -/

namespace Block

inductive Chomping where
  | strip
  | clip
  | keep
  deriving DecidableEq, Repr

def chomping? : Char → Option Chomping
  | '+' => some .keep
  | '-' => some .strip
  | _ => none

def increment? (c : Cursor) : Option (Option Nat × Cursor) :=
  match c.rest with
  | d :: _ =>
    if d = '0' then none
    else if d.isDigit then some (some (d.toNat - '0'.toNat), c.next)
    else some (none, c)
  | [] => some (none, c)

def indicators (c : Cursor) : Option (Chomping × Option Nat × Cursor) := do
  match c.head?.bind chomping? with
  | some chomping =>
    let (increment, c) ← increment? c.next
    return (chomping, increment, c)
  | none =>
    let (increment, c) ← increment? c
    if increment.isNone then return (.clip, none, c)
    match c.head?.bind chomping? with
    | some chomping => return (chomping, increment, c.next)
    | none => return (.clip, increment, c)

/-- Passes indentation and empty lines; without a known indentation the widest line counts. -/
def breaks (indent : Option Nat) (widest : Nat) (text : List Char) (c : Cursor) :
    Nat → Option (List Char × Nat × Cursor)
  | 0 => none
  | fuel + 1 =>
    let within (c : Cursor) := indent.all (c.column < ·)
    let spaces := c.rest.takeWhile (· = ' ')
    let width := match indent with
      | some n => Nat.min spaces.length (n - c.column)
      | none => spaces.length
    let c := c.skip width
    let widest := Nat.max widest c.column
    if within c && c.head? = some '\t' then none
    else if c.atBreak then
      let (line, c) := c.nextLine
      breaks indent widest (text ++ line) c fuel
    else some (text, widest, c)

structure Lines where
  text : List Char
  last : List Char
  others : List Char

/-- Reads lines of the given indentation. `leading` says whether the line before began with a blank,
and `breakBefore` is its line break. -/
def lines (literal : Bool) (indent : Nat) (leading : Bool) (breakBefore others : List Char)
    (c : Cursor) : Nat → Option (Lines × Cursor)
  | 0 => none
  | fuel + 1 =>
    if c.column = indent && !c.rest.isEmpty then do
      let blank := c.atBlank
      let joint :=
        if !literal && breakBefore.head? = some '\n' && !leading && !blank then
          if others.isEmpty then [' '] else []
        else breakBefore
      let line := c.rest.takeWhile (!isBreak ·)
      let (newBreak, c) := (c.skip line.length).nextLine
      let (newOthers, _, c) ← breaks (some indent) 0 [] c (c.rest.length + 1)
      let (rest, c) ← lines literal indent blank newBreak newOthers c fuel
      return ({ rest with text := joint ++ others ++ line ++ rest.text }, c)
    else some (⟨[], breakBefore, others⟩, c)

def read (literal : Bool) (parent : Int) (c : Cursor) : Option (List Char × Cursor) := do
  let (chomping, increment, c) ← indicators c
  let c := c.skipBlanks.skipComment
  if !c.rest.isEmpty && !c.atBreak then none
  let c := c.nextLine.2
  let fixed := increment.map fun n => (if 0 ≤ parent then parent.toNat + n else n)
  let (others, widest, c) ← breaks fixed 0 [] c (c.rest.length + 1)
  let indent := fixed.getD (Nat.max widest (Nat.max (parent + 1).toNat 1))
  let (result, c) ← lines literal indent false [] others c (c.rest.length + 1)
  let text := result.text ++ (if chomping = .strip then [] else result.last) ++
    (if chomping = .keep then result.others else [])
  return (text, c)

end Block

end Scaffold.Document.Yaml
