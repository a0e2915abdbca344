import Scaffold.Shell.Glob

/-!
Expanded words, and the fields that they are split into. Only what comes from an expansion that was
not quoted is split at separators; white space among these counts once and vanishes at the ends.
-/
namespace Scaffold.Shell

inductive Piece where
  | mark (m : Mark)
  /-- Quotes, which make a field even when they hold nothing. -/
  | quotes
  | gap
  deriving DecidableEq, Repr

inductive Splitting where
  | never
  | atSeparators
  | atGaps
  deriving DecidableEq, Repr

structure Stretch where
  pieces : List Piece
  splitting : Splitting

namespace Stretch

def ofValue (text : String) (isQuoted : Bool) : Stretch :=
  ⟨(Glob.marks text isQuoted).map .mark, if isQuoted then .never else .atSeparators⟩

def marks (ss : List Stretch) : List Mark :=
  ss.flatMap fun s => s.pieces.filterMap fun
    | .mark m => some m
    | .gap => some ⟨' ', false⟩
    | .quotes => none

def text (ss : List Stretch) : String := Glob.text (marks ss)

end Stretch

namespace Field

def defaultSeparators : String := " \t\n"

def isBlank (c : Char) : Bool := c = ' ' || c = '\t' || c = '\n'

structure Progress where
  done : List (List Piece)
  current : List Piece
  afterBlank : Bool
  splitting : Splitting
  afterGaps : Bool
  /-- How many more fields there may be. -/
  left : Option Nat
  /-- How much of the current field is left when its white space at the end is dropped. -/
  kept : Option Nat

namespace Progress

def separator (isBlank : Bool) (piece : Piece) (f : Progress) : Progress :=
  let f := if f.afterGaps || f.splitting = .atGaps then f else { f with afterBlank := isBlank }
  if f.current.isEmpty && f.afterBlank then { f with afterBlank := false }
  else
    match f.left with
    | some 1 =>
      { f with left := some 0, kept := some f.current.length, current := piece :: f.current }
    | left =>
      { f with done := f.current.reverse :: f.done, current := [], left := left.map (· - 1) }

def piece (separators : List Char) (f : Progress) (p : Piece) : Progress :=
  let isSeparator := match p with
    | .mark m => f.splitting = .atSeparators && separators.contains m.char
    | .gap => true
    | .quotes => false
  let isBlank := isSeparator && match p with
    | .mark m => Field.isBlank m.char
    | _ => true
  if f.left = some 0 then
    let kept :=
      if isBlank then f.kept <|> some f.current.length
      else if isSeparator && f.afterBlank then f.kept
      else none
    { f with kept := kept, current := p :: f.current, afterBlank := f.afterBlank && isBlank }
  else if f.afterBlank then
    let f := { f with current := [] }
    if isBlank then f
    else if isSeparator then { f with afterBlank := false }
    else { f with afterBlank := false, current := [p] }
  else if isSeparator then f.separator isBlank p
  else { f with current := p :: f.current }

def stretch (separators : List Char) (f : Progress) (s : Stretch) : Progress :=
  match s.splitting with
  | .never => { f with current := s.pieces.reverse ++ f.current }
  | splitting =>
    let f := { f with
      afterBlank := false, afterGaps := f.splitting = .atGaps, splitting := splitting }
    s.pieces.foldl (piece separators) f

def fields (f : Progress) : List (List Piece) :=
  let current := match f.kept with
    | some n => f.current.drop (f.current.length - n)
    | none => f.current
  let all := if f.splitting = .atGaps || !current.isEmpty then current.reverse :: f.done else f.done
  all.reverse

end Progress

/-- The fields of an expanded word, of which there may be so many. -/
def split (separators : List Char) (limit : Option Nat) (ss : List Stretch) : List (List Mark) :=
  let f := ss.foldl (Progress.stretch separators) ⟨[], [], false, .never, false, limit, none⟩
  f.fields.map fun ps => ps.filterMap fun
    | .mark m => some m
    | _ => none

end Field

end Scaffold.Shell
