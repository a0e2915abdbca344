import Scaffold.Document.Yaml.Token

/-!
YAML texts as tokens. Whether a token is the key of a record shows only when the colon after it is
met, so the places where a key may have begun are kept, one for each level of brackets. Where a text
makes no sense, the tokens end before the first place that was still open.
-/
namespace Scaffold.Document.Yaml

structure KeyPlace where
  isRequired : Bool
  token : Nat
  index : Nat
  line : Nat
  column : Nat

structure Lexer where
  size : Nat
  cursor : Cursor
  tokens : Array Token
  /-- The column of the innermost block, and of those around it. -/
  indent : Int
  outer : List Int
  keyAllowed : Bool
  /-- The place for a key outside of all brackets, and within each level of them, innermost first. -/
  place : Option KeyPlace
  places : List (Option KeyPlace)

namespace Lexer

def start (text : List Char) : Lexer where
  size := text.length
  cursor := ⟨text, 0, 0, 0⟩
  tokens := #[]
  indent := -1
  outer := []
  keyAllowed := true
  place := none
  places := []

def inFlow (l : Lexer) : Bool := !l.places.isEmpty

def room (l : Lexer) : Nat := l.size + 1 - l.cursor.index

def push (l : Lexer) (t : Token) (c : Cursor) : Lexer :=
  { l with tokens := l.tokens.push t, cursor := c }

/-! Blanks, comments and line breaks. -/

def skipGap (l : Lexer) : Nat → Lexer
  | 0 => l
  | fuel + 1 =>
    let tabs := l.inFlow || !l.keyAllowed
    let c := if l.cursor.column = 0 && l.cursor.head? = some '\uFEFF' then l.cursor.next else l.cursor
    let c := (c.skipWhile fun a => a = ' ' || (tabs && a = '\t')).skipComment
    if c.atBreak then
      skipGap { l with cursor := c.nextLine.2, keyAllowed := l.keyAllowed || !l.inFlow } fuel
    else { l with cursor := c }

/-! Places for keys. -/

def dropPlace (l : Lexer) : Option Lexer :=
  if l.place.any (·.isRequired) then none else some { l with place := none }

def savePlace (l : Lexer) : Option Lexer := do
  if !l.keyAllowed then return l
  let l ← l.dropPlace
  let c := l.cursor
  let isRequired := !l.inFlow && l.indent = (c.column : Int)
  return { l with place := some ⟨isRequired, l.tokens.size, c.index, c.line, c.column⟩ }

def isStale (c : Cursor) (k : KeyPlace) : Bool :=
  k.line < c.line || k.index + 1024 < c.index

def dropStale (l : Lexer) : Option Lexer :=
  let stale (k : KeyPlace) := isStale l.cursor k
  if (l.place :: l.places).any (·.any fun k => stale k && k.isRequired) then none
  else
    let keep (k : Option KeyPlace) := k.filter (!stale ·)
    some { l with place := keep l.place, places := l.places.map keep }

/-- The number of the first token that may yet turn out to be a key. -/
def firstOpen (l : Lexer) : Nat :=
  (l.place :: l.places).foldl (fun n k => (k.map (·.token)).elim n (Nat.min n)) l.tokens.size

/-! Blocks. -/

/-- Begins a block at a column that is further to the right; its token becomes the one of that number. -/
def enterBlock (l : Lexer) (column number : Nat) (t : Token) : Lexer :=
  if !l.inFlow && l.indent < column then
    { l with indent := column, outer := l.indent :: l.outer, tokens := l.tokens.insertIdx! number t }
  else l

def leaveTo (column : Int) (indent : Int) (tokens : Array Token) :
    List Int → Int × List Int × Array Token
  | outer :: rest =>
    if column < indent then leaveTo column outer (tokens.push .blockEnd) rest
    else (indent, outer :: rest, tokens)
  | [] => (indent, [], tokens)

def leaveBlocks (l : Lexer) (column : Int) : Lexer :=
  if l.inFlow then l
  else
    let (indent, outer, tokens) := leaveTo column l.indent l.tokens l.outer
    { l with indent, outer, tokens }

/-! Tokens. -/

def streamEnd (l : Lexer) : Option Lexer := do
  let l ← (l.leaveBlocks (-1)).dropPlace
  return l.push .streamEnd l.cursor

def directive (l : Lexer) : Option Lexer := do
  let l ← (l.leaveBlocks (-1)).dropPlace
  let (token, c) ← Token.directive? l.cursor
  return { l.push token c with keyAllowed := false }

def documentMark (l : Lexer) : Option Lexer := do
  let l ← (l.leaveBlocks (-1)).dropPlace
  let token := if l.cursor.head? = some '-' then Token.documentStart else .documentEnd
  return { l.push token (l.cursor.skip 3) with keyAllowed := false }

def bracketOpen (l : Lexer) (t : Token) : Option Lexer := do
  let l ← l.savePlace
  return { l.push t l.cursor.next with keyAllowed := true, place := none, places := l.place :: l.places }

def bracketClose (l : Lexer) (t : Token) : Option Lexer := do
  let l ← l.dropPlace
  let l := { l.push t l.cursor.next with keyAllowed := false }
  match l.places with
  | place :: places => return { l with place, places }
  | [] => return l

def comma (l : Lexer) : Option Lexer := do
  let l ← l.dropPlace
  return { l.push .comma l.cursor.next with keyAllowed := true }

/-- In a block, a mark may stand only where a key may, and begins a block at its column. -/
def beginBlock (l : Lexer) (t : Token) : Option Lexer :=
  if l.inFlow then some l
  else if l.keyAllowed then some (l.enterBlock l.cursor.column l.tokens.size t)
  else none

def dash (l : Lexer) : Option Lexer := do
  let l ← (← l.beginBlock .blockList).dropPlace
  return { l.push .dash l.cursor.next with keyAllowed := true }

def key (l : Lexer) : Option Lexer := do
  let l ← (← l.beginBlock .blockRecord).dropPlace
  return { l.push .key l.cursor.next with keyAllowed := !l.inFlow }

def value (l : Lexer) : Option Lexer := do
  match l.place with
  | some k =>
    let l := { l with tokens := l.tokens.insertIdx! k.token .key, place := none }
    let l := l.enterBlock k.column k.token .blockRecord
    return { l.push .value l.cursor.next with keyAllowed := false }
  | none =>
    let l ← l.beginBlock .blockRecord
    return { l.push .value l.cursor.next with keyAllowed := !l.inFlow }

def word (l : Lexer) (read : Cursor → Option (Token × Cursor)) : Option Lexer := do
  let l ← l.savePlace
  let (token, c) ← read l.cursor
  return { l.push token c with keyAllowed := false }

def blockScalar (l : Lexer) (style : ScalarStyle) : Option Lexer := do
  let l ← l.dropPlace
  let (text, c) ← Block.read (style = .literal) l.indent l.cursor.next
  return { l.push (.scalar style text) c with keyAllowed := true }

def quotedScalar (l : Lexer) (single : Bool) : Option Lexer :=
  l.word fun c => (Quoted.read single c.next l.room).map fun (text, c) =>
    (.scalar .quoted text, c)

def plainScalar (l : Lexer) : Option Lexer := do
  let l ← l.savePlace
  let indent := (l.indent + 1).toNat
  let (text, hasBreak, c) ← Plain.read l.inFlow indent .none l.cursor l.room
  return { l.push (.scalar .plain text) c with keyAllowed := hasBreak }

def beginsPlain (inFlow : Bool) (a : Char) (s : List Char) : Bool :=
  if a = '-' then !s.head?.any isBlank
  else if a = '?' || a = ':' then !inFlow && !isGap s
  else !(isBlank a || ",[]\x7b\x7d#&*!|>'\"%@\x60".contains a)

def token (l : Lexer) (a : Char) (s : List Char) : Option Lexer :=
  if a = '[' then l.bracketOpen .openList
  else if a = '{' then l.bracketOpen .openRecord
  else if a = ']' then l.bracketClose .closeList
  else if a = '}' then l.bracketClose .closeRecord
  else if a = ',' then l.comma
  else if a = '-' && isGap s then l.dash
  else if a = '?' && (l.inFlow || isGap s) then l.key
  else if a = ':' && (l.inFlow || isGap s) then l.value
  else if a = '*' then l.word fun c => (Token.name? c).map fun (name, c) => (.reference name, c)
  else if a = '&' then l.word fun c => (Token.name? c).map fun (name, c) => (.anchor name, c)
  else if a = '!' then l.word (Token.tag? l.inFlow l.room)
  else if a = '|' && !l.inFlow then l.blockScalar .literal
  else if a = '>' && !l.inFlow then l.blockScalar .folded
  else if a = '\'' then l.quotedScalar true
  else if a = '"' then l.quotedScalar false
  else if beginsPlain l.inFlow a s then l.plainScalar
  else none

def step (l : Lexer) : Option Lexer := do
  let l ← (l.skipGap l.room).dropStale
  match l.cursor.rest with
  | [] => l.streamEnd
  | a :: s =>
    let l := l.leaveBlocks l.cursor.column
    if l.cursor.column = 0 && a = '%' then l.directive
    else if l.cursor.atDocumentMark then l.documentMark
    else l.token a s

/-- Where a step fails, the tokens end at the first one that could be a key before it; where a key
does not come to its end in time, they end as they would have before the step that passed it. -/
def run (l : Lexer) (given : Nat) : Nat → Array Token
  | 0 => l.tokens
  | fuel + 1 =>
    match l.dropStale with
    | none => l.tokens.take given
    | some l =>
      match l.step with
      | none => l.tokens.take l.firstOpen
      | some next =>
        if next.tokens.back? = some .streamEnd then next.tokens else run next l.firstOpen fuel

end Lexer

/-- The tokens of a text. Only those of a text that makes sense to its end have the stream's end. -/
def Token.ofText (text : List Char) : List Token :=
  ((Lexer.start text).run 0 (text.length + 2)).toList

end Scaffold.Document.Yaml
