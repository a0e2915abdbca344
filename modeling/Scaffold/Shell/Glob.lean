import Scaffold.Files.Operations
import Scaffold.Shell.ByteText

/-!
Patterns of a shell, in which stars, question marks and brackets stand for characters unless they are
quoted; and the paths that match them.
-/
namespace Scaffold.Shell

structure Mark where
  char : Char
  isQuoted : Bool
  deriving DecidableEq, Repr

namespace Glob

def Mark.isBare (c : Char) (m : Mark) : Bool := m.char = c && !m.isQuoted

def marks (s : String) (isQuoted : Bool) : List Mark := s.toList.map fun c => ⟨c, isQuoted⟩

def text (p : List Mark) : String := String.ofList (p.map (·.char))

def isSpecial (p : List Mark) : Bool :=
  p.any fun m => Mark.isBare '*' m || Mark.isBare '?' m || Mark.isBare '[' m

/-- Takes away the backslashes of a value that is used as a pattern; they quote what follows. -/
def unescaped : List Mark → List Mark
  | m :: n :: p =>
    if Mark.isBare '\\' m then { n with isQuoted := true } :: unescaped p
    else m :: unescaped (n :: p)
  | p => p

/-! Brackets. -/

def isIn (className : String) (c : Char) : Bool :=
  match className with
  | "alnum" => c.isAlphanum
  | "alpha" => c.isAlpha
  | "blank" => c = ' ' || c = '\t'
  | "cntrl" => c.toNat < 32 || c.toNat = 127
  | "digit" => c.isDigit
  | "graph" => 32 < c.toNat && c.toNat < 127
  | "lower" => c.isLower
  | "print" => 32 ≤ c.toNat && c.toNat < 127
  | "punct" => 32 < c.toNat && c.toNat < 127 && !c.isAlphanum
  | "space" => c = ' ' || (9 ≤ c.toNat && c.toNat ≤ 13)
  | "upper" => c.isUpper
  | "xdigit" => c.isDigit || ('a' ≤ c && c ≤ 'f') || ('A' ≤ c && c ≤ 'F')
  | _ => false

def classNames : List String :=
  ["alnum", "alpha", "blank", "cntrl", "digit", "graph", "lower", "print", "punct", "space", "upper",
    "xdigit"]

def namedClass? (p : List Mark) : Option (String × List Mark) :=
  match p with
  | a :: b :: rest =>
    if Mark.isBare '[' a && Mark.isBare ':' b then
      classNames.findSome? fun name =>
        let whole := (name ++ ":]").toList
        if whole.isPrefixOf (rest.map (·.char)) then some (name, rest.drop whole.length) else none
    else none
  | _ => none

/-- Whether a character is one of those between brackets, and what follows the closing one, which
may not stand first. -/
def bracketHolds? (c : Char) (isFirst found : Bool) :
    List Mark → Nat → Option (Bool × List Mark)
  | [], _ | _, 0 => none
  | m :: p, fuel + 1 =>
    if Mark.isBare ']' m && !isFirst then some (found, p)
    else
      match namedClass? (m :: p) with
      | some (name, rest) => bracketHolds? c false (found || isIn name c) rest fuel
      | none =>
        match p with
        | dash :: last :: rest =>
          if Mark.isBare '-' dash && !Mark.isBare ']' last then
            bracketHolds? c false (found || (m.char ≤ c && c ≤ last.char)) rest fuel
          else bracketHolds? c false (found || m.char = c) (dash :: last :: rest) fuel
        | p => bracketHolds? c false (found || m.char = c) p fuel

def bracket? (c : Char) (p : List Mark) : Option (Bool × List Mark) :=
  match p with
  | m :: q =>
    if Mark.isBare '!' m || Mark.isBare '^' m then
      (bracketHolds? c true false q (q.length + 1)).map fun (b, rest) => (!b, rest)
    else bracketHolds? c true false p (p.length + 1)
  | [] => none

/-! Matching. -/

def isMatch (p : List Mark) (s : List Char) : Nat → Bool
  | 0 => false
  | fuel + 1 =>
    match p, s with
    | [], s => s.isEmpty
    | m :: p, s =>
      if Mark.isBare '*' m then
        isMatch p s fuel || (match s with | [] => false | _ :: s => isMatch (m :: p) s fuel)
      else
        match s with
        | [] => false
        | c :: s =>
          if Mark.isBare '?' m then isMatch p s fuel
          else
            match if Mark.isBare '[' m then bracket? c p else none with
            | some (holds, rest) => holds && isMatch rest s fuel
            | none => m.char = c && isMatch p s fuel

def holds (p : List Mark) (s : List Char) : Bool :=
  let p := unescaped p
  isMatch p s (p.length + s.length + 1)

def startLength? (p : List Mark) (s : List Char) (longest : Bool) : Option Nat :=
  let lengths := List.range (s.length + 1)
  (if longest then lengths.reverse else lengths).find? fun n => holds p (s.take n)

def endLength? (p : List Mark) (s : List Char) (longest : Bool) : Option Nat :=
  let lengths := List.range (s.length + 1)
  (if longest then lengths.reverse else lengths).find? fun n => holds p (s.drop (s.length - n))

/-! Paths. -/

def names (p : List Mark) : List (List Mark) :=
  p.splitOnP fun m => m.char = '/'

def found? (t : FileTree) (directory : Location) (path : String) : Option Location :=
  (Files.locate t directory (if path.isEmpty then "." else ByteText.text path)).toOption

/-- The names in a directory that match; hidden ones need a pattern with a point at its front. -/
def matching (t : FileTree) (place : Location) (p : List Mark) : List String :=
  let all := "." :: ".." :: (t.names place).map ByteText.ofText
  all.filter fun name =>
    (p.head?.any (·.char = '.') || name.toList.head? ≠ some '.') && holds p name.toList

def paths (t : FileTree) (directory : Location) (front : String) : List (List Mark) → List String
  | [] => [front]
  | p :: ps =>
    let isLast := ps.isEmpty
    let inner (name : String) : List String :=
      if isLast then [front ++ name] else paths t directory (front ++ name ++ "/") ps
    match found? t directory front with
    | none => []
    | some place =>
      if !t.isDirectory place then []
      else if isSpecial p then (matching t place p).flatMap inner
      else
        let name := text (unescaped p)
        let isThere := name.isEmpty ||
          (Files.locateEntry t directory (ByteText.text (front ++ name))).toOption.isSome
        if isLast && !isThere then [] else inner name

/-- The texts that a word stands for: the paths that match it, or itself when there are none. -/
def expand (t : FileTree) (directory : Location) (p : List Mark) : List String :=
  if !isSpecial p then [text p]
  else
    let found := paths t directory "" (names p)
    if found.isEmpty then [text p] else found

end Glob

end Scaffold.Shell
