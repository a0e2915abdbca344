import Scaffold.Shell.Cursor

/-!
The words and the other tokens of a script. Quotes and expansions belong to the words, and the
scripts of expansions are read where they stand.
-/
namespace Scaffold.Shell

/-- Parts of a word on the way: those that are complete, in reverse, and the literal text that has
begun. -/
structure WordBuilder where
  done : List Part
  text : List Char
  isQuoted : Bool

namespace WordBuilder

def empty : WordBuilder := ⟨[], [], false⟩

def flush (b : WordBuilder) : WordBuilder :=
  if b.text.isEmpty then b else ⟨.literal b.text.reverse b.isQuoted :: b.done, [], b.isQuoted⟩

def char (c : Char) (isQuoted : Bool) (b : WordBuilder) : WordBuilder :=
  if b.isQuoted = isQuoted then { b with text := c :: b.text }
  else { b.flush with text := [c], isQuoted := isQuoted }

def chars (cs : List Char) (isQuoted : Bool) (b : WordBuilder) : WordBuilder :=
  cs.foldl (fun b c => b.char c isQuoted) b

def part (p : Part) (b : WordBuilder) : WordBuilder :=
  { b.flush with done := p :: b.flush.done }

/-- Quotes, even around nothing, make a word. -/
def quotes (b : WordBuilder) : WordBuilder := b.part (.literal [] true)

def word (b : WordBuilder) : Word := b.flush.done.reverse

/-- What double quotes add. All arguments between quotes are each a word of their own. -/
def quoted (inner : Word) (b : WordBuilder) : WordBuilder :=
  match inner with
  | [.parameter "@" .keep _ _ _] => inner.foldl (fun b p => b.part p) b
  | inner => inner.foldl (fun b p => b.part p) b.quotes

end WordBuilder

inductive Place where
  | bare
  | quotes (inBraces : Bool)
  /-- Between the braces of an expansion, where double quotes around it may hold. -/
  | braces (isQuoted inDocument : Bool)
  | document (mark : List Char) (dropsTabs : Bool)
  | arithmetic (depth : Nat)
  deriving DecidableEq

namespace Place

def isQuoted : Place → Bool
  | bare => false
  | braces isQuoted _ => isQuoted
  | _ => true

def isDocument : Place → Bool
  | document .. => true
  | braces _ inDocument => inDocument
  | _ => false

def escapes (p : Place) (c : Char) : Bool :=
  match p with
  | bare | braces false _ => true
  | quotes inBraces => "\\\x60$\"".contains c || (inBraces && c = '\x7d')
  | braces true _ => "\\\x60$\"\x7d".contains c
  | document .. => "\\\x60$".contains c
  | arithmetic _ => "\\\x60$\"".contains c

def unfinished? : Place → Option String
  | bare | document .. => none
  | quotes _ => some "Unterminated quoted string"
  | braces isQuoted inDocument =>
    some (if isQuoted && !inDocument then "Unterminated quoted string" else "Missing '\x7d'")
  | arithmetic _ => some "Missing '))'"

def inner (p : Place) (change : Change) : Place :=
  match change with
  | .dropStart _ | .dropEnd _ => braces false false
  | _ => braces p.isQuoted p.isDocument

end Place

/-- How the scripts of expansions are read; a parenthesis may have to end them. -/
abbrev Inner := Bool → Reading Script

namespace Token

def backquoted? (isQuoted : Bool) : List Char → Option (List Char × List Char)
  | [] => none
  | '\x60' :: s => some ([], s)
  | '\\' :: '\n' :: s => backquoted? isQuoted s
  | '\\' :: c :: s =>
    (backquoted? isQuoted s).map fun (t, r) =>
      (if "\\\x60$".contains c || (isQuoted && c = '"') then (c :: t, r) else ('\\' :: c :: t, r))
  | c :: s => (backquoted? isQuoted s).map fun (t, r) => (c :: t, r)

/-- The name of a parameter between braces, whether its length is asked for, and what follows; none
when there is no such name. -/
def parameter? (s : List Char) : Option (List Char × Bool × List Char) :=
  let named (s : List Char) :=
    match s with
    | [] => none
    | c :: _ =>
      if isNameStart c then some (s.takeWhile isNameChar, s.dropWhile isNameChar)
      else if c.isDigit then some (s.takeWhile Char.isDigit, s.dropWhile Char.isDigit)
      else none
  match named s with
  | some (name, rest) => some (name, false, rest)
  | none =>
    match s with
    | '#' :: rest =>
      match named rest with
      | some (name, rest) => some (name, true, rest)
      | none =>
        match rest with
        | c :: '\x7d' :: _ =>
          if c = '\x7d' then some (['#'], false, rest)
          else if isSpecial c then some ([c], true, rest.drop 1)
          else none
        | _ => some (['#'], false, rest)
    | c :: rest => if isSpecial c then some ([c], false, rest) else none
    | [] => none

/-- The change after the name of a parameter between braces: whether an empty value counts as
missing, whether the braces end with it, and what follows. -/
def change (asksLength : Bool) (s : List Char) : Change × Bool × Bool × List Char :=
  let simple? (c : Char) : Option Change :=
    match c with
    | '-' => some .default
    | '+' => some .alternative
    | '?' => some .demand
    | '=' => some .assign
    | _ => none
  if asksLength then (if s.head? = some '\x7d' then .length else .unknown, false, false, s)
  else
    match s with
    | '\x7d' :: s => (.keep, false, true, s)
    | '%' :: '%' :: s => (.dropEnd true, false, false, s)
    | '%' :: s => (.dropEnd false, false, false, s)
    | '#' :: '#' :: s => (.dropStart true, false, false, s)
    | '#' :: s => (.dropStart false, false, false, s)
    | ':' :: '\x7d' :: s => (.keep, true, false, s)
    | ':' :: c :: s => ((simple? c).getD .unknown, true, false, s)
    | c :: s => ((simple? c).getD .unknown, false, false, s)
    | [] => (.unknown, false, false, [])

def documentEnd? (mark : List Char) (s : List Char) : Option (List Char) :=
  if mark.isPrefixOf s then
    match s.drop mark.length with
    | [] => some []
    | '\n' :: rest => some ('\n' :: rest)
    | _ => none
  else none

def startLine (mark : List Char) (dropsTabs : Bool) : Reading Bool := do
  let s := (← get).rest
  let s := if dropsTabs then s.dropWhile (· = '\t') else s
  match documentEnd? mark s with
  | some rest =>
    Reading.goPast (rest.take 1) (rest.drop 1)
    return true
  | none =>
    Reading.goTo s
    return false

mutual

/-- The parts up to the end of their place. The scripts of expansions are read by `inner`. -/
def parts (inner : Inner) (p : Place) (b : WordBuilder) : Nat → Reading Word
  | 0 => Reading.fail "Unterminated quoted string"
  | fuel + 1 => do
    let s ← Reading.joined
    let isQuoted := p.isQuoted
    let literal (c : Char) (rest : List Char) : Reading Word := do
      Reading.goTo rest
      parts inner p (b.char c isQuoted) fuel
    match s with
    | [] =>
      match p.unfinished? with
      | some text => Reading.fail text
      | none => return b.word
    | '\n' :: rest =>
      if p = .bare then return b.word
      Reading.goPast ['\n'] rest
      let b := b.char '\n' isQuoted
      match p with
      | .document mark dropsTabs =>
        if ← startLine mark dropsTabs then return b.word else parts inner p b fuel
      | p => parts inner p b fuel
    | '\\' :: rest =>
      match rest with
      | [] => do
        Reading.goTo []
        parts inner p (b.char '\\' true) fuel
      | c :: rest => do
        Reading.goTo rest
        let b := if p.escapes c then b else b.char '\\' true
        parts inner p (b.char c true) fuel
    | '\'' :: rest =>
      if isQuoted then literal '\'' rest
      else do
        let text := rest.takeWhile (· ≠ '\'')
        Reading.goPast text (rest.drop (text.length + 1))
        if text.length = rest.length then Reading.fail "Unterminated quoted string"
        parts inner p (b.quotes.chars text true) fuel
    | '"' :: rest =>
      match p with
      | .quotes _ => do
        Reading.goTo rest
        return b.word
      | .document .. | .arithmetic _ => literal '"' rest
      | p => do
        Reading.goTo rest
        let text ← parts inner (.quotes (p matches .braces ..)) .empty fuel
        parts inner p (b.quoted text) fuel
    | '$' :: rest => do
      if (← get).readsMark then literal '$' rest
      else
        Reading.goTo rest
        match ← expansion? inner p fuel with
        | some part => parts inner p (b.part part) fuel
        | none => parts inner p (b.char '$' isQuoted) fuel
    | '\x60' :: rest => do
      if (← get).readsMark then literal '\x60' rest
      else
        match backquoted? isQuoted rest with
        | none => do
          Reading.goPast rest []
          Reading.fail "EOF in backquote substitution"
        | some (text, after) => do
          let c ← get
          set { c with rest := text, line := 1, pushed := none, awaited := [] }
          let script ← inner false
          modify fun d => { d with line := c.line, pushed := none, awaited := c.awaited }
          Reading.goPast (rest.take (rest.length - after.length)) after
          parts inner p (b.part (.output script isQuoted)) fuel
    | '\x7d' :: rest =>
      match p with
      | .braces .. => do
        Reading.goTo rest
        return b.word
      | _ => literal '\x7d' rest
    | c :: rest =>
      match p, c with
      | .bare, c => if endsWord c then return b.word else literal c rest
      | .arithmetic depth, '(' => do
        Reading.goTo rest
        parts inner (.arithmetic (depth + 1)) (b.char '(' true) fuel
      | .arithmetic (depth + 1), ')' => do
        Reading.goTo rest
        parts inner (.arithmetic depth) (b.char ')' true) fuel
      | .arithmetic 0, ')' => do
        Reading.goTo rest
        match ← Reading.joined with
        | ')' :: rest => do
          Reading.goTo rest
          return b.word
        | _ => parts inner p (b.char ')' true) fuel
      | _, c => literal c rest

def expansion? (inner : Inner) (p : Place) : Nat → Reading (Option Part)
  | 0 => Reading.fail "Unterminated quoted string"
  | fuel + 1 => do
    let isQuoted := p.isQuoted
    match ← Reading.joined with
    | '(' :: rest => do
      Reading.goTo rest
      match ← Reading.joined with
      | '(' :: rest => do
        Reading.goTo rest
        return some (.arithmetic (← parts inner (.arithmetic 0) .empty fuel) isQuoted)
      | _ => do
        let awaited := (← get).awaited
        modify fun c => { c with awaited := [] }
        let script ← inner true
        modify fun c => { c with awaited := awaited, pushed := none }
        return some (.output script isQuoted)
    | '\x7b' :: rest => do
      Reading.goTo rest
      match parameter? (← Reading.joined) with
      | none =>
        let word ← parts inner (p.inner .unknown) .empty fuel
        return some (.parameter "" .unknown false word isQuoted)
      | some (name, asksLength, rest) => do
        let (c, orEmpty, isOver, rest) := change asksLength rest
        Reading.goTo rest
        let word ← if isOver then pure [] else parts inner (p.inner c) .empty fuel
        return some (.parameter (String.ofList name) c orEmpty word isQuoted)
    | c :: rest =>
      if isNameStart c then do
        let name := (c :: rest).takeWhile isNameChar
        Reading.goTo ((c :: rest).drop name.length)
        return some (.parameter (String.ofList name) .keep false [] isQuoted)
      else if isSpecial c then do
        Reading.goTo rest
        return some (.parameter c.toString .keep false [] isQuoted)
      else return none
    | [] => return none

end

/-! Tokens. -/

def keywords : List String :=
  ["!", "case", "do", "done", "elif", "else", "esac", "fi", "for", "if", "in", "then", "until",
    "while", "\x7b", "\x7d"]

def operators : List String := ["&&", "||", ";;", ";", "&", "|", "(", ")"]

def redirection? (s : List Char) : Option (Token × List Char) :=
  let (stream, s) : Option Nat × List Char := match s with
    | d :: c :: rest =>
      if d.isDigit && (c = '<' || c = '>') then (some (d.toNat - '0'.toNat), c :: rest)
      else (none, d :: c :: rest)
    | s => (none, s)
  let redirect (standard : Nat) (kind : RedirectionKind) (rest : List Char) :=
    some (redirection (stream.getD standard) kind, rest)
  match s with
  | '>' :: '>' :: rest => redirect 1 (.file .append) rest
  | '>' :: '|' :: rest => redirect 1 (.file (.write true)) rest
  | '>' :: '&' :: rest => redirect 1 .same rest
  | '>' :: rest => redirect 1 (.file (.write false)) rest
  | '<' :: '<' :: '-' :: rest => redirect 0 (.document true) rest
  | '<' :: '<' :: rest => redirect 0 (.document false) rest
  | '<' :: '&' :: rest => redirect 0 .same rest
  | '<' :: '>' :: rest => redirect 0 (.file .both) rest
  | '<' :: rest => redirect 0 (.file .read) rest
  | _ => none

def scan (inner : Inner) : Nat → Reading Token
  | 0 => return finish
  | fuel + 1 => do
    let s ← Reading.joined
    match s with
    | [] => return finish
    | ' ' :: rest | '\t' :: rest => do
      Reading.goTo rest
      scan inner fuel
    | '#' :: rest => do
      Reading.goTo (rest.dropWhile (· ≠ '\n'))
      scan inner fuel
    | '\n' :: rest => do
      Reading.goPast ['\n'] rest
      return newline
    | s =>
      match redirection? s with
      | some (t, rest) => do
        Reading.goTo rest
        return t
      | none =>
        match operators.find? fun o => o.toList.isPrefixOf s with
        | some o => do
          Reading.goTo (s.drop o.length)
          return operator o
        | none => return word (← parts inner .bare .empty (2 * s.length + 8))

/-- What a reader of tokens looks for: it passes the ends of lines, it knows keywords, and it
replaces aliases. -/
structure Sight where
  passesLines : Bool := false
  knowsKeywords : Bool := false
  replacesAliases : Bool := false

namespace Sight

def plain : Sight := {}
def command : Sight := { knowsKeywords := true, replacesAliases := true }
def laterCommand : Sight := { command with passesLines := true }

end Sight

def readDocuments (inner : Inner) : Reading Unit := do
  let awaited := (← get).awaited
  modify fun c => { c with awaited := [] }
  awaited.forM fun a => do
    let text ←
      if ← startLine a.mark a.dropsTabs then pure []
      else if a.isQuoted then plainText a (← get).rest.length .empty
      else parts inner (.document a.mark a.dropsTabs) .empty (2 * (← get).rest.length + 8)
    modify fun c => { c with documents := ⟨a.number, text⟩ :: c.documents }
where
  plainText (a : Awaited) : Nat → WordBuilder → Reading Word
    | 0, b => return b.word
    | fuel + 1, b => do
      let s := (← get).rest
      let line := s.takeWhile (· ≠ '\n')
      let b := b.chars line true
      match s.drop line.length with
      | [] => do
        Reading.goTo []
        return b.word
      | _ :: rest => do
        Reading.goPast ['\n'] rest
        let b := b.char '\n' true
        if ← startLine a.mark a.dropsTabs then return b.word else plainText a fuel b

def aliasText? (c : Cursor) (name : String) : Option String :=
  let isReplaced := c.replaced.any fun (other, size) => other = name && size ≤ c.rest.length
  if isReplaced then none else (c.aliases.find? (·.1 = name)).map (·.2)

/-- Whether the next word follows an alias whose text ends in a blank; then it may be one too. -/
def followsAlias (c : Cursor) : Bool :=
  let isBlank (d : Char) : Bool := d = ' ' || d = '\t'
  let start := (c.rest.dropWhile isBlank).length
  c.pushed.isNone && c.replaced.any fun (name, size) =>
    start ≤ size && size < c.rest.length &&
      (c.aliases.lookup name).any fun text => text.toList.getLast?.any isBlank

def next (inner : Inner) (sight : Sight) : Nat → Reading Token
  | 0 => return finish
  | fuel + 1 => do
    let c ← get
    let replacesAliases := sight.replacesAliases || followsAlias c
    let t ← match c.pushed with
      | some t => do
        set { c with pushed := none }
        pure t
      | none => scan inner (c.rest.length + 1)
    match t with
    | newline =>
      if sight.passesLines then
        readDocuments inner
        next inner sight fuel
      else return t
    | word w =>
      match w.plain? with
      | none => return t
      | some text =>
        let name := String.ofList text
        if sight.knowsKeywords && keywords.contains name then return keyword name
        let c ← get
        match if replacesAliases then aliasText? c name else none with
        | none => return t
        | some text => do
          set { c with
            rest := text.toList ++ c.rest
            replaced := (name, c.rest.length) :: c.replaced }
          next inner sight fuel
    | t => return t

end Token

end Scaffold.Shell
