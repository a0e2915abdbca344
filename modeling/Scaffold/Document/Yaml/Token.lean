import Scaffold.Document.Yaml.Scalar

/-!
The tokens of YAML, and the reading of those that are no scalars: anchors, tags and directives.
-/
namespace Scaffold.Document.Yaml

inductive Token where
  | version (major minor : Nat)
  | handle (name : List Char) (meaning : List UInt8)
  | documentStart
  | documentEnd
  | streamEnd
  | blockList
  | blockRecord
  | blockEnd
  | openList
  | closeList
  | openRecord
  | closeRecord
  | dash
  | comma
  | key
  | value
  | anchor (name : List Char)
  | reference (name : List Char)
  /-- The handle is empty for a tag that is written out. Escaped bytes need not be UTF-8. -/
  | tag (handle : List Char) (suffix : List UInt8)
  | scalar (style : ScalarStyle) (text : List Char)
  deriving DecidableEq, Repr

namespace Token

def name? (c : Cursor) : Option (List Char × Cursor) :=
  let c := c.next
  let name := c.rest.takeWhile isNameChar
  let c := c.skip name.length
  let isEnd := isGap c.rest || c.head?.any ("?:,]\x7d%@\x60".contains ·)
  if name.isEmpty || !isEnd then none else some (name, c)

/-! Tags. -/

def isTagChar (isWritten : Bool) (c : Char) : Bool :=
  isNameChar c || ";/?:@&=+$.!~*'()%".contains c || (isWritten && ",[]".contains c)

def byteCount? (first : UInt8) : Option Nat :=
  if first < 0x80 then some 1
  else if 0xC0 ≤ first && first < 0xE0 then some 2
  else if 0xE0 ≤ first && first < 0xF0 then some 3
  else if 0xF0 ≤ first && first < 0xF8 then some 4
  else none

def escapedByte? : List Char → Option (UInt8 × List Char)
  | '%' :: a :: b :: s => do
    return (UInt8.ofNat (16 * (← Quoted.hexDigit? a) + (← Quoted.hexDigit? b)), s)
  | _ => none

def continuationBytes? : Nat → List Char → Option (List UInt8 × List Char)
  | 0, s => some ([], s)
  | count + 1, s => do
    let (b, s) ← escapedByte? s
    if b / 64 ≠ 2 then none
    let (bs, s) ← continuationBytes? count s
    return (b :: bs, s)

def escapedChar? (s : List Char) : Option (List UInt8 × List Char) := do
  let (first, s) ← escapedByte? s
  let (others, s) ← continuationBytes? ((← byteCount? first) - 1) s
  return (first :: others, s)

def tagText (isWritten : Bool) (c : Cursor) : Nat → Option (List UInt8 × Cursor)
  | 0 => some ([], c)
  | fuel + 1 =>
    match c.rest with
    | '%' :: _ => do
      let (x, s) ← escapedChar? c.rest
      let (text, c) ← tagText isWritten (c.skip (c.rest.length - s.length)) fuel
      return (x ++ text, c)
    | a :: _ =>
      if isTagChar isWritten a then do
        let (text, c) ← tagText isWritten c.next fuel
        return (a.toUInt8 :: text, c)
      else some ([], c)
    | [] => some ([], c)

/-- A handle: an exclamation mark, or a name between two of them. Without the second one the name
is kept for what follows. -/
def readHandle (c : Cursor) : List Char × Cursor :=
  let name := c.next.rest.takeWhile isNameChar
  let c := c.skip (name.length + 1)
  if c.head? = some '!' then ('!' :: name ++ ['!'], c.next) else ('!' :: name, c)

def tag? (inFlow : Bool) (fuel : Nat) (c : Cursor) : Option (Token × Cursor) := do
  let (token, c) ←
    match c.next.rest with
    | '<' :: _ => do
      let (text, c) ← tagText true (c.skip 2) fuel
      if text.isEmpty || c.head? ≠ some '>' then none
      some (tag [] text, c.next)
    | _ => do
      let (name, c) := readHandle c
      let (text, c) ← tagText false c fuel
      if 1 < name.length && name.getLast? = some '!' then
        if text.isEmpty then none
        some (tag name text, c)
      else
        let text := (name.drop 1).map Char.toUInt8 ++ text
        some (if text.isEmpty then tag [] ['!'.toUInt8] else tag ['!'] text, c)
  if isGap c.rest || (inFlow && c.head? = some ',') then some (token, c) else none

/-! Directives. -/

/-- A number of at most nine digits. -/
def directiveNumber? (c : Cursor) : Option (Nat × Cursor) :=
  let ds := c.rest.takeWhile Char.isDigit
  if ds.isEmpty || 9 < ds.length then none
  else some (ds.foldl (fun n d => 10 * n + (d.toNat - '0'.toNat)) 0, c.skip ds.length)

def version? (c : Cursor) : Option (Token × Cursor) := do
  let (major, c) ← directiveNumber? c.skipBlanks
  if c.head? ≠ some '.' then none
  let (minor, c) ← directiveNumber? c.next
  return (version major minor, c)

def handle? (c : Cursor) : Option (Token × Cursor) := do
  let c := c.skipBlanks
  if c.head? ≠ some '!' then none
  let (name, c) := readHandle c
  if 1 < name.length && name.getLast? ≠ some '!' then none
  if !c.atBlank then none
  let (meaning, c) ← tagText true c.skipBlanks (c.rest.length + 1)
  if meaning.isEmpty || !isGap c.rest then none
  return (handle name meaning, c)

def directive? (c : Cursor) : Option (Token × Cursor) := do
  let c := c.next
  let name := c.rest.takeWhile isNameChar
  let c := c.skip name.length
  if !isGap c.rest then none
  let (token, c) ←
    if name = "YAML".toList then version? c
    else if name = "TAG".toList then handle? c
    else none
  let c := c.skipBlanks.skipComment
  if c.rest.isEmpty then return (token, c)
  if !c.atBreak then none
  return (token, c.nextLine.2)

end Token

end Scaffold.Document.Yaml
