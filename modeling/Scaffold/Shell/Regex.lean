import Scaffold.Shell.Glob

/-!
Regular expressions of programs. Of all matches the leftmost one counts, and of those that begin at
the same place the longest one.
-/
namespace Scaffold.Shell

inductive Regex where
  | empty
  | char (c : Char)
  | any
  | oneOf (isTurned : Bool) (ranges : List (Char × Char)) (classes : List String)
  | lineStart
  | lineEnd
  /-- A place that is the start of a word, the end of one, or both. -/
  | wordEdge (isStart isEnd : Bool)
  | insideWord
  | group (number : Nat) (body : Regex)
  | again (number : Nat)
  | both (first second : Regex)
  | either (first second : Regex)
  | repeated (least : Nat) (most : Option Nat) (body : Regex)
  deriving Repr

namespace Regex

structure Subject where
  chars : Array Char
  ignoresCase : Bool

/-- Where a match has come to, and where the groups in it have begun and ended. -/
structure Spot where
  index : Nat
  groups : List (Nat × Nat × Nat)

namespace Subject

def ofText (text : String) (ignoresCase : Bool) : Subject := ⟨text.toList.toArray, ignoresCase⟩

def size (s : Subject) : Nat := s.chars.size

def isWordChar (c : Char) : Bool := c.isAlphanum || c = '_'

def isWordAt (s : Subject) (i : Nat) : Bool := (s.chars[i]?).any isWordChar

def beginsWord (s : Subject) (i : Nat) : Bool := s.isWordAt i && (i = 0 || !s.isWordAt (i - 1))
def endsWord (s : Subject) (i : Nat) : Bool := 0 < i && s.isWordAt (i - 1) && !s.isWordAt i

def isSame (s : Subject) (a b : Char) : Bool :=
  a = b || (s.ignoresCase && a.toLower = b.toLower)

def slice (s : Subject) (first last : Nat) : List Char := (s.chars.extract first last).toList

def step (s : Subject) (p : Spot) (isAllowed : Char → Bool) : List Spot :=
  if (s.chars[p.index]?).any isAllowed then [{ p with index := p.index + 1 }] else []

end Subject

def isInSet (ranges : List (Char × Char)) (classes : List String) (c : Char) : Bool :=
  ranges.any (fun (a, b) => a ≤ c && c ≤ b) || classes.any (Glob.isIn · c)

def distinct (ps : List Spot) : List Spot :=
  (ps.foldl (fun found p => if found.any (·.index = p.index) then found else p :: found) []).reverse

/-- All spots that steps lead to, those after more steps first; a place is only gone to once. -/
def reached (step : Spot → List Spot) : Nat → List Nat → Spot → List Nat × List Spot
  | 0, seen, p => (seen, [p])
  | fuel + 1, seen, p =>
    if seen.contains p.index then (seen, [])
    else
      let (seen, found) := (step p).foldl (fun (seen, found) q =>
        let (seen, more) := reached step fuel seen q
        (seen, found ++ more)) (p.index :: seen, [])
      (seen, found ++ [p])

/-- The spots after a number of steps, and after up to so many more. -/
def times (step : Spot → List Spot) (most : Option Nat) (size : Nat) : Nat → Spot → List Spot
  | 0, p =>
    match most with
    | none => (reached step (size + 2) [] p).2
    | some n => atMost n p
  | least + 1, p => distinct ((step p).flatMap (times step (most.map (· - 1)) size least))
where
  atMost : Nat → Spot → List Spot
    | 0, p => [p]
    | n + 1, p => distinct (((step p).filter (·.index ≠ p.index)).flatMap (atMost n) ++ [p])

/-- Where matches that begin at a spot may end, the preferred ones first. -/
def ends (s : Subject) : Regex → Spot → List Spot
  | .empty, p => [p]
  | .char c, p => s.step p (s.isSame c)
  | .any, p => s.step p fun _ => true
  | .oneOf isTurned ranges classes, p =>
    s.step p fun c =>
      let isIn := isInSet ranges classes
      isTurned != (isIn c || (s.ignoresCase && (isIn c.toLower || isIn c.toUpper)))
  | .lineStart, p => if p.index = 0 then [p] else []
  | .lineEnd, p => if p.index = s.size then [p] else []
  | .wordEdge isStart isEnd, p =>
    if (isStart && s.beginsWord p.index) || (isEnd && s.endsWord p.index) then [p] else []
  | .insideWord, p => if s.beginsWord p.index || s.endsWord p.index then [] else [p]
  | .group n body, p =>
    (ends s body p).map fun q => { q with groups := (n, p.index, q.index) :: q.groups }
  | .again n, p =>
    match p.groups.lookup n with
    | none => []
    | some (first, last) =>
      let text := s.slice first last
      let next := s.slice p.index (p.index + text.length)
      if text.length = next.length && (text.zip next).all fun (a, b) => s.isSame a b then
        [{ p with index := p.index + text.length }]
      else []
  | .both a b, p => distinct ((ends s a p).flatMap (ends s b))
  | .either a b, p => distinct (ends s a p ++ ends s b p)
  | .repeated least most body, p => times (ends s body) most s.size least p

structure Match where
  first : Nat
  last : Nat
  groups : List (Nat × Nat × Nat)

/-- The longest match that begins at a place and is accepted. -/
def matchAt? (r : Regex) (s : Subject) (accepts : Nat → Nat → Bool) (first : Nat) : Option Match :=
  let found := (ends s r ⟨first, []⟩).filter fun p => accepts first p.index
  let longest := found.foldl (fun best p =>
    match best with
    | some q => if q.index < p.index then some p else some q
    | none => some p) (none : Option Spot)
  longest.map fun p => ⟨first, p.index, p.groups⟩

def find? (r : Regex) (s : Subject) (accepts : Nat → Nat → Bool) (first : Nat) : Option Match :=
  (List.range (s.size + 1 - first)).findSome? fun i => matchAt? r s accepts (first + i)

/-- The text of a group, which is empty when the group has no part in the match; group zero is the
whole match. -/
def Match.text (m : Match) (s : Subject) (group : Nat) : List Char :=
  if group = 0 then s.slice m.first m.last
  else (m.groups.lookup group).elim [] fun (first, last) => s.slice first last

end Regex

end Scaffold.Shell
