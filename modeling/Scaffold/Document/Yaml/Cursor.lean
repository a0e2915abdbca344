/-!
Positions in a YAML text: what is left of it, and how far it is from the beginning of the text and of
the line.
-/
namespace Scaffold.Document.Yaml

def isBreak (c : Char) : Bool :=
  c = '\n' || c = '\r' || c = '\u0085' || c = '\u2028' || c = '\u2029'

def isBlank (c : Char) : Bool := c = ' ' || c = '\t'

def isGap (s : List Char) : Bool :=
  match s with
  | [] => true
  | c :: _ => isBlank c || isBreak c

def isAllowed (c : Char) : Bool :=
  let n := c.toNat
  n = 0x09 || n = 0x0A || n = 0x0D || (0x20 ≤ n && n ≤ 0x7E) || n = 0x85 ||
    (0xA0 ≤ n && n ≤ 0xFFFD) || 0x10000 ≤ n

def isNameChar (c : Char) : Bool := c.isAlphanum || c = '_' || c = '-'

structure Cursor where
  rest : List Char
  index : Nat
  line : Nat
  column : Nat

namespace Cursor

def next (c : Cursor) : Cursor :=
  ⟨c.rest.drop 1, c.index + 1, c.line, c.column + 1⟩

def skip (c : Cursor) (count : Nat) : Cursor :=
  ⟨c.rest.drop count, c.index + count, c.line, c.column + count⟩

def nextLine (c : Cursor) : List Char × Cursor :=
  match c.rest with
  | '\r' :: '\n' :: s => (['\n'], ⟨s, c.index + 2, c.line + 1, 0⟩)
  | b :: s =>
    let text := if b = '\u2028' || b = '\u2029' then [b] else ['\n']
    (text, ⟨s, c.index + 1, c.line + 1, 0⟩)
  | [] => ([], c)

def head? (c : Cursor) : Option Char := c.rest.head?

/-- Passes the characters for which `p` holds; none of them may be a line break. -/
def skipWhile (p : Char → Bool) (c : Cursor) : Cursor :=
  c.skip (c.rest.takeWhile p).length

def skipBlanks (c : Cursor) : Cursor := c.skipWhile isBlank

def skipComment (c : Cursor) : Cursor :=
  if c.head? = some '#' then c.skipWhile (!isBreak ·) else c

def atBreak (c : Cursor) : Bool := c.head?.any isBreak
def atBlank (c : Cursor) : Bool := c.head?.any isBlank

def atDocumentMark (c : Cursor) : Bool :=
  c.column = 0 &&
    match c.rest with
    | '-' :: '-' :: '-' :: s => isGap s
    | '.' :: '.' :: '.' :: s => isGap s
    | _ => false

end Cursor

structure Fold where
  blanks : List Char
  first : List Char
  others : List Char
  hasBreak : Bool

namespace Fold

def none : Fold := ⟨[], [], [], false⟩

/-- What folded line breaks or blanks count as: one line break is a space, and of more than one the
first does not count. -/
def text (f : Fold) : List Char :=
  if f.hasBreak then
    if f.first = ['\n'] then (if f.others.isEmpty then [' '] else f.others)
    else f.first ++ f.others
  else f.blanks

/-- Reads blanks and line breaks. Where an indentation is given, a tab before it is an error. -/
def read (indent : Nat) (f : Fold) (c : Cursor) : Nat → Option (Fold × Cursor)
  | 0 => some (f, c)
  | fuel + 1 =>
    match c.rest with
    | [] => some (f, c)
    | b :: _ =>
      if isBlank b then
        if f.hasBreak then
          if b = '\t' && c.column < indent then Option.none else read indent f c.next fuel
        else read indent { f with blanks := f.blanks ++ [b] } c.next fuel
      else if isBreak b then
        let (text, c) := c.nextLine
        if f.hasBreak then read indent { f with others := f.others ++ text } c fuel
        else read indent ⟨[], text, [], true⟩ c fuel
      else some (f, c)

end Fold

end Scaffold.Document.Yaml
