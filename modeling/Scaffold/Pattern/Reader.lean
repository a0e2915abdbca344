import Scaffold.Pattern.CharSet
import Scaffold.Pattern.Simplify
import Scaffold.Text.Search

/-!
Reading patterns from texts. Flags may be set for the rest of a group or for a group of their own;
one of them lets white space and comments stand between the parts of a pattern.
-/
namespace Scaffold.Pattern

open Text

structure Flags where
  ignoreCase : Bool := false
  multiLine : Bool := false
  dotMatchesNewline : Bool := false
  swapGreed : Bool := false
  unicode : Bool := true
  crlf : Bool := false
  ignoreSpace : Bool := false
  deriving DecidableEq

structure Reading where
  rest : List Char
  flags : Flags
  groups : Nat
  names : List (String × Nat)
  deriving DecidableEq

abbrev Read := StateT Reading (Except Fault)

namespace Read

def isOperator (c : Char) : Bool := c = '?' || c = '*' || c = '+' || c = '{'

def dropSpace : List Char → List Char
  | [] => []
  | c :: s =>
    if isBlank c then dropSpace s
    else if c = '#' then dropComment s
    else c :: s
where
  dropComment : List Char → List Char
    | [] => []
    | c :: s => if c = '\n' then dropSpace s else dropComment s

def afterSpace (flags : Flags) (s : List Char) : List Char :=
  if flags.ignoreSpace then dropSpace s else s

def rest : Read (List Char) := return (← get).rest
def flags : Read Flags := return (← get).flags
def setRest (s : List Char) : Read Unit := modify fun r => { r with rest := s }
def skipSpace : Read Unit := modify fun r => { r with rest := afterSpace r.flags r.rest }

def continueAt (s : List Char) : Read Unit := do
  setRest s
  skipSpace

def ofOption (f : Fault) : Option α → Read α
  | some a => return a
  | none => throw f

/-! Counts. -/

def count? (flags : Flags) (s : List Char) : Option Nat × List Char :=
  let s := s.dropWhile isBlank
  let (ds, s) := digits s.length s
  let s := if flags.ignoreSpace && !ds.isEmpty then dropSpace s else s
  let value := ds.foldl (fun n c => 10 * n + (c.toNat - '0'.toNat)) 0
  (if ds.isEmpty then none else some value, dropBlanks s.length s)
where
  digits : Nat → List Char → List Char × List Char
    | fuel + 1, c :: s =>
      if c.isDigit then
        let (ds, rest) := digits fuel (afterSpace flags s)
        (c :: ds, rest)
      else ([], c :: s)
    | _, s => ([], s)
  dropBlanks : Nat → List Char → List Char
    | fuel + 1, c :: s => if isBlank c then dropBlanks fuel (afterSpace flags s) else c :: s
    | _, s => s

def countLimit : Nat := Nat.pow 2 32

def bounds : Read (Nat × Option Nat) := do
  skipSpace
  let flags ← flags
  let (first, s) := count? flags (← rest)
  let first ← ofOption .invalidRepetition first
  let (second, s) ←
    match s with
    | ',' :: s =>
      match afterSpace flags s with
      | '}' :: s => pure (none, '}' :: s)
      | s => do
        let (second, s) := count? flags s
        pure (some (← ofOption .invalidRepetition second), s)
    | s => pure (some first, s)
  match s with
  | '}' :: s =>
    setRest s
    if countLimit ≤ first || second.any (countLimit ≤ ·) || second.any (· < first) then
      throw .invalidRepetition
    return (first, second)
  | _ => throw .invalidRepetition

/-! Escapes. -/

inductive Escape where
  | char (c : Char)
  | byte (n : Nat)
  | set (r : Ranges)
  | look (l : Look)

def hexDigit? (c : Char) : Option Nat :=
  if c.isDigit then some (c.toNat - '0'.toNat)
  else if 'a' ≤ c && c ≤ 'f' then some (c.toNat - 'a'.toNat + 10)
  else if 'A' ≤ c && c ≤ 'F' then some (c.toNat - 'A'.toNat + 10)
  else none

def ofCode (n : Nat) : Read Char :=
  if n.isValidChar then return Char.ofNat n else throw .invalidCharacter

def bracedDigits (flags : Flags) : Nat → List Char → Option (List Nat × List Char)
  | fuel + 1, s =>
    match afterSpace flags s with
    | '}' :: s => some ([], s)
    | c :: s => do
      let d ← hexDigit? c
      let (ds, rest) ← bracedDigits flags fuel s
      return (d :: ds, rest)
    | [] => none
  | 0, _ => none

def fixedDigits (flags : Flags) : Nat → List Char → Option (List Nat × List Char)
  | 0, s => some ([], s)
  | width + 1, s =>
    match afterSpace flags s with
    | c :: s => do
      let d ← hexDigit? c
      let (ds, rest) ← fixedDigits flags width s
      return (d :: ds, rest)
    | [] => none

def hexValue (ds : List Nat) : Nat := ds.foldl (fun n d => 16 * n + d) 0

def hexEscape (width : Nat) (s : List Char) : Read Escape := do
  let flags ← flags
  match afterSpace flags s with
  | '{' :: s =>
    let (ds, s) ← ofOption .invalidCharacter (bracedDigits flags (s.length + 1) s)
    if ds.isEmpty then throw .invalidCharacter
    continueAt s
    return .char (← ofCode (hexValue ds))
  | s =>
    let (ds, s) ← ofOption .invalidCharacter (fixedDigits flags width s)
    continueAt s
    let n := hexValue ds
    if width = 2 then return .byte n else return .char (← ofCode n)

def folded (flags : Flags) (r : Ranges) : Ranges :=
  if flags.ignoreCase then CharSet.fold flags.unicode r else r

/-- A set under its own flags, negated or not. What is not in a set of ASCII characters is not a set
of characters without Unicode. -/
def finishSet (flags : Flags) (negated : Bool) (r : Ranges) : Read Ranges :=
  if !negated then return folded flags r
  else if flags.unicode then return CharSet.negate (folded flags r)
  else throw .notUnicode

def divide? (separator : List Char) (s : List Char) : Option (List Char × List Char) :=
  match s with
  | [] => none
  | c :: cs =>
    if separator.isPrefixOf (c :: cs) then some ([], (c :: cs).drop separator.length)
    else (divide? separator cs).map fun (a, b) => (c :: a, b)

/-- The text up to a closing brace; blanks do not count where white space does not. -/
def propertyName (flags : Flags) : Nat → List Char → Option (List Char × List Char)
  | fuel + 1, s =>
    match afterSpace flags s with
    | '}' :: s => some ([], s)
    | c :: s => (propertyName flags fuel s).map fun (name, rest) => (c :: name, rest)
    | [] => none
  | 0, _ => none

def propertySet? (name : List Char) : Option (Bool × Ranges) :=
  match divide? ['!', '='] name with
  | some (name, value) => (CharSet.valued? name value).map (true, ·)
  | none =>
    match divide? [':'] name <|> divide? ['='] name with
    | some (name, value) => (CharSet.valued? name value).map (false, ·)
    | none => (CharSet.property? name).map (false, ·)

def propertyEscape (negated : Bool) (s : List Char) : Read Escape := do
  let flags ← flags
  let (name, s, braced) ←
    match afterSpace flags s with
    | '{' :: s =>
      let (name, s) ← ofOption .unknownProperty (propertyName flags (s.length + 1) s)
      pure (name, s, true)
    | '\\' :: _ => throw .unknownProperty
    | c :: s => pure ([c], s, false)
    | [] => throw .unknownEscape
  if braced then setRest s else continueAt s
  if !flags.unicode then throw .notUnicode
  let (differs, r) ← ofOption .unknownProperty
    (if braced then propertySet? name else (CharSet.property? name).map (false, ·))
  return .set (← finishSet flags (negated != differs) r)

def isMeta (c : Char) : Bool :=
  "\\.+*?()|[]\x7b\x7d^$#&-~".toList.contains c

def isEscapable (c : Char) : Bool :=
  isMeta c || (c.toNat < 128 && !c.isAlphanum && c ≠ '<' && c ≠ '>')

def isWordPlaceChar (c : Char) : Bool := c.isAlpha || c = '-'

def wordPlaceName (flags : Flags) : Nat → List Char → List Char × List Char
  | fuel + 1, c :: s =>
    if isWordPlaceChar c then
      let (name, rest) := wordPlaceName flags fuel (afterSpace flags s)
      (c :: name, rest)
    else ([], c :: s)
  | _, s => ([], s)

def boundary (s : List Char) : Read Escape := do
  let flags ← flags
  let plain := do
    setRest s
    return .look (.boundary flags.unicode)
  match s with
  | '{' :: s =>
    match afterSpace flags s with
    | [] => throw .invalidRepetition
    | c :: s =>
      if isWordPlaceChar c then
        let (name, s) := wordPlaceName flags (s.length + 1) (c :: s)
        match s with
        | '}' :: s =>
          setRest s
          match String.ofList name with
          | "start" => return .look (.wordStart flags.unicode)
          | "end" => return .look (.wordEnd flags.unicode)
          | "start-half" => return .look (.noWordBefore flags.unicode)
          | "end-half" => return .look (.noWordAfter flags.unicode)
          | _ => throw .unknownEscape
        | _ => throw .unknownEscape
      else plain
  | _ => plain

def escape : Read Escape := do
  let flags ← flags
  match ← rest with
  | [] => throw .unknownEscape
  | c :: s =>
    let plain (e : Escape) : Read Escape := do
      setRest s
      return e
    match c with
    | 'x' => hexEscape 2 s
    | 'u' => hexEscape 4 s
    | 'U' => hexEscape 8 s
    | 'p' => propertyEscape false s
    | 'P' => propertyEscape true s
    | 'b' => boundary s
    | 'B' => plain (.look (.notBoundary flags.unicode))
    | '<' => plain (.look (.wordStart flags.unicode))
    | '>' => plain (.look (.wordEnd flags.unicode))
    | 'A' => plain (.look .textStart)
    | 'z' => plain (.look .textEnd)
    | 'a' => plain (.char '\x07')
    | 'f' => plain (.char '\x0c')
    | 't' => plain (.char '\t')
    | 'n' => plain (.char '\n')
    | 'r' => plain (.char '\r')
    | 'v' => plain (.char '\x0b')
    | c =>
      match CharSet.shorthand? flags.unicode c.toLower with
      | some r =>
        if !c.isUpper then plain (.set r)
        else if flags.unicode then plain (.set (CharSet.negate r))
        else throw .notUnicode
      | none => if isEscapable c then plain (.char c) else throw .unknownEscape

/-! Classes in square brackets. -/

/-- The number that a single character of a class has, as far as its flags know numbers. -/
def singleNumber (flags : Flags) : Escape → Read Nat
  | .char c => if flags.unicode || c.toNat < 128 then return c.toNat else throw .notUnicode
  | .byte n => if flags.unicode || n < 128 then return n else throw .notUnicode
  | _ => throw .invalidRange

def itemSet (flags : Flags) : Escape → Read Ranges
  | .set r => return r
  | .look _ => throw .unknownEscape
  | e => return .single (← singleNumber flags e)

def classItem : Read Escape := do
  match ← rest with
  | [] => throw .unclosedClass
  | '\\' :: s =>
    setRest s
    escape
  | c :: s =>
    setRest s
    return .char c

def joinsRange (flags : Flags) : List Char → Bool
  | '-' :: s =>
    match afterSpace flags s with
    | ']' :: _ => false
    | '-' :: _ => false
    | _ => true
  | _ => false

def classRange : Read Ranges := do
  let first ← classItem
  skipSpace
  let flags ← flags
  match ← rest with
  | [] => throw .unclosedClass
  | s =>
    if joinsRange flags s then
      continueAt (s.drop 1)
      let second ← classItem
      let a ← singleNumber flags first
      let b ← singleNumber flags second
      if b < a then throw .invalidRange
      return .ofList [(a, b)]
    else itemSet flags first

def namedClass? (s : List Char) : Option (Bool × Ranges × List Char) := do
  let s ← dropStart? ['[', ':'] s
  let (negated, s) := match s with
    | '^' :: s => (true, s)
    | s => (false, s)
  let name := s.takeWhile (· ≠ ':')
  let s ← dropStart? [':', ']'] (s.dropWhile (· ≠ ':'))
  return (negated, ← CharSet.named? (String.ofList name), s)

inductive SetOperator where
  | intersection
  | difference
  | symmetricDifference

def setOperator? : List Char → Option (SetOperator × List Char)
  | '&' :: '&' :: s => some (.intersection, s)
  | '-' :: '-' :: s => some (.difference, s)
  | '~' :: '~' :: s => some (.symmetricDifference, s)
  | _ => none

/-- A class as far as it is read: the operand on the left of an operator with its nesting, the items
after it, and how deeply they are nested. -/
structure Partial where
  left : Option (SetOperator × Ranges × Nat)
  items : Ranges
  itemCount : Nat
  depth : Nat

namespace Partial

def add (p : Partial) (r : Ranges) (depth : Nat) : Partial :=
  { p with items := p.items.union r, itemCount := p.itemCount + 1, depth := Nat.max p.depth depth }

/-- The set read so far. Before an operator is applied its operands are folded. -/
def value (flags : Flags) (p : Partial) : Ranges :=
  match p.left with
  | none => p.items
  | some (op, left, _) =>
    let left := folded flags left
    let right := folded flags p.items
    match op with
    | .intersection => left.inter topCodePoint right
    | .difference => left.diff topCodePoint right
    | .symmetricDifference => left.symmDiff topCodePoint right

/-- Several items are one level above each of them, and an operator is one above its operands. -/
def nesting (p : Partial) : Nat :=
  let right := p.depth + (if 1 < p.itemCount then 1 else 0)
  match p.left with
  | none => right
  | some (_, _, left) => Nat.max left right + 1

end Partial

/-- Hyphens at the beginning of a class stand for themselves. -/
def leadingHyphens (flags : Flags) (p : Partial) : Nat → List Char → Partial × List Char
  | fuel + 1, '-' :: s =>
    leadingHyphens flags (p.add (.single '-'.toNat) 0) fuel (afterSpace flags s)
  | _, s => (p, s)

mutual

def charClass (fuel : Nat) : Read (Ranges × Nat) := do
  match fuel with
  | 0 => throw .unclosedClass
  | fuel + 1 =>
    skipSpace
    let flags ← flags
    let (negated, s) ←
      match ← rest with
      | '^' :: s => pure (true, afterSpace flags s)
      | s => pure (false, s)
    let (p, s) := leadingHyphens flags ⟨none, .empty, 0, 0⟩ (s.length + 1) s
    let (p, s) :=
      match s with
      | ']' :: s =>
        if p.itemCount = 0 then (p.add (.single ']'.toNat) 0, afterSpace flags s) else (p, ']' :: s)
      | s => (p, s)
    if s.isEmpty then throw .unclosedClass
    setRest s
    let p ← classItems fuel p
    return (← finishSet flags negated (p.value flags), p.nesting + 1)

def classItems (fuel : Nat) (p : Partial) : Read Partial := do
  match fuel with
  | 0 => throw .unclosedClass
  | fuel + 1 =>
    skipSpace
    let flags ← flags
    match ← rest with
    | [] => throw .unclosedClass
    | ']' :: s =>
      setRest s
      return p
    | '[' :: s =>
      match namedClass? ('[' :: s) with
      | some (negated, r, s) =>
        setRest s
        classItems fuel (p.add (← finishSet flags negated r) 0)
      | none =>
        setRest s
        let (r, depth) ← charClass fuel
        classItems fuel (p.add r depth)
    | s =>
      match setOperator? s with
      | some (op, s) =>
        setRest s
        classItems fuel ⟨some (op, p.value flags, p.nesting), .empty, 0, 0⟩
      | none =>
        let r ← classRange
        classItems fuel (p.add r 0)

end

/-! Groups. -/

structure FlagList where
  flags : Flags
  seen : List Char
  negated : Bool
  isEmpty : Bool
  /-- Whether a minus sign was read last. -/
  dangling : Bool

def setFlag? (flags : Flags) (value : Bool) : Char → Option Flags
  | 'i' => some { flags with ignoreCase := value }
  | 'm' => some { flags with multiLine := value }
  | 's' => some { flags with dotMatchesNewline := value }
  | 'U' => some { flags with swapGreed := value }
  | 'u' => some { flags with unicode := value }
  | 'R' => some { flags with crlf := value }
  | 'x' => some { flags with ignoreSpace := value }
  | _ => none

def flagList (l : FlagList) : List Char → Option (FlagList × List Char)
  | [] => none
  | c :: s =>
    if c = ':' || c = ')' then if l.dangling then none else some (l, c :: s)
    else if c = '-' then
      if l.negated then none
      else flagList { l with negated := true, isEmpty := false, dangling := true } s
    else if l.seen.contains c then none
    else do
      let flags ← setFlag? l.flags (!l.negated) c
      flagList ⟨flags, c :: l.seen, l.negated, false, false⟩ s

def isNameChar (first : Bool) (c : Char) : Bool :=
  if first then c = '_' || isAlphabetic c
  else c = '_' || c = '.' || c = '[' || c = ']' || isAlphanumeric c

def isGroupName : List Char → Bool
  | [] => false
  | c :: cs => isNameChar true c && cs.all (isNameChar false)

def newGroup : Read Nat := do
  let r ← get
  set { r with groups := r.groups + 1 }
  return r.groups + 1

def groupName (index : Nat) (s : List Char) : Read Unit := do
  let name := s.takeWhile (· ≠ '>')
  let s := s.dropWhile (· ≠ '>')
  if s.isEmpty || !isGroupName name then throw .invalidGroupName
  let r ← get
  let name := String.ofList name
  if (r.names.lookup name).isSome then throw .repeatedGroupName
  set { r with rest := s.drop 1, names := r.names ++ [(name, index)] }

def isLookAround : List Char → Bool
  | '?' :: '=' :: _ => true
  | '?' :: '!' :: _ => true
  | '?' :: '<' :: '=' :: _ => true
  | '?' :: '<' :: '!' :: _ => true
  | _ => false

/-- What an opening parenthesis begins: flags for the rest of the group around it, or a group, which
may have a number. -/
inductive Opening where
  | flags
  | group (index : Option Nat)

def opening : Read Opening := do
  skipSpace
  let s ← rest
  if isLookAround s then throw .lookAround
  match s with
  | '?' :: 'P' :: '<' :: s =>
    let index ← newGroup
    groupName index s
    return .group (some index)
  | '?' :: '<' :: s =>
    let index ← newGroup
    groupName index s
    return .group (some index)
  | '?' :: s =>
    let l : FlagList := ⟨← flags, [], false, true, false⟩
    let (l, s) ← ofOption .invalidFlags (flagList l s)
    match s with
    | ')' :: s =>
      if l.isEmpty then throw .nothingToRepeat
      modify fun r => { r with rest := s, flags := l.flags }
      return .flags
    | s =>
      modify fun r => { r with rest := s.drop 1, flags := l.flags }
      return .group none
  | _ => return .group (some (← newGroup))

/-! Expressions. -/

structure Nested where
  expr : Expr
  depth : Nat

def depthLimit : Nat := 250

def nested (depth : Nat) (e : Expr) : Read Nested :=
  if depthLimit < depth then throw .nestedTooDeeply else return ⟨e, depth⟩

def ofChar (flags : Flags) (c : Char) : Expr :=
  if flags.ignoreCase && (flags.unicode || c.toNat < 128) then
    .char (CharSet.fold flags.unicode (.single c.toNat))
  else .char (.single c.toNat)

def ofEscape (flags : Flags) : Escape → Read Expr
  | .char c => return ofChar flags c
  | .byte n =>
    if flags.unicode || n < 128 then return ofChar flags (Char.ofNat n) else throw .notUnicode
  | .set r => return .char r
  | .look l => return .look l

def dot (flags : Flags) : Read Expr :=
  if !flags.unicode then throw .notUnicode
  else
    let excluded :=
      if flags.dotMatchesNewline then []
      else if flags.crlf then ['\n', '\r']
      else ['\n']
    return .char (CharSet.negate (.ofList (excluded.map fun c => (c.toNat, c.toNat))))

def lineStart (flags : Flags) : Look :=
  if flags.multiLine then .lineStart flags.crlf else .textStart

def lineEnd (flags : Flags) : Look :=
  if flags.multiLine then .lineEnd flags.crlf else .textEnd

def operator? : Read (Option (Nat × Option Nat)) := do
  skipSpace
  match ← rest with
  | '?' :: s =>
    setRest s
    return some (0, some 1)
  | '*' :: s =>
    setRest s
    return some (0, none)
  | '+' :: s =>
    setRest s
    return some (1, none)
  | '{' :: s =>
    setRest s
    let (min, max) ← bounds
    skipSpace
    return some (min, max)
  | _ => return none

def repeated (fuel : Nat) (e : Nested) : Read Nested := do
  match fuel with
  | 0 => return e
  | fuel + 1 =>
    match ← operator? with
    | none => return e
    | some (min, max) =>
      let flags ← flags
      let lazy ←
        match ← rest with
        | '?' :: s => do
          setRest s
          pure true
        | _ => pure false
      let greedy := lazy == flags.swapGreed
      repeated fuel (← nested (e.depth + 1) (.ofRepetition min max greedy e.expr))

def combine (ofList : List Expr → Expr) (parts : List Nested) : Read Nested :=
  match parts with
  | [e] => return e
  | parts =>
    let depth := (parts.map Nested.depth).foldl Nat.max 0
    nested (if parts.isEmpty then 0 else depth + 1) (ofList (parts.map Nested.expr))

mutual

def alternatives (fuel : Nat) : Read (List Nested) := do
  match fuel with
  | 0 => throw .nestedTooDeeply
  | fuel + 1 =>
    let first ← combine Expr.ofList (← sequence fuel)
    match ← rest with
    | '|' :: s =>
      setRest s
      return first :: (← alternatives fuel)
    | _ => return [first]

def sequence (fuel : Nat) : Read (List Nested) := do
  match fuel with
  | 0 => throw .nestedTooDeeply
  | fuel + 1 =>
    skipSpace
    match ← rest with
    | [] => return []
    | c :: s =>
      if c = '|' || c = ')' then return []
      else if isOperator c then throw .nothingToRepeat
      else
        setRest s
        match ← item fuel c with
        | some e => return (← repeated (s.length + 1) e) :: (← sequence fuel)
        | none => return ⟨.empty, 0⟩ :: (← sequence fuel)

/-- The part of a pattern that begins with a character; flags alone are none. -/
def item (fuel : Nat) (c : Char) : Read (Option Nested) := do
  match fuel with
  | 0 => throw .nestedTooDeeply
  | fuel + 1 =>
    let flags ← flags
    match c with
    | '(' =>
      match ← opening with
      | .flags => return none
      | .group index =>
        let e ← combine Expr.ofAlternatives (← alternatives fuel)
        match ← rest with
        | ')' :: s =>
          modify fun r => { r with rest := s, flags := flags }
          let expr := match index with
            | some index => .group index e.expr
            | none => e.expr
          return some (← nested (e.depth + 1) expr)
        | _ => throw .unclosedGroup
    | '[' =>
      let (r, depth) ← charClass fuel
      return some (← nested depth (.char r))
    | '\\' => return some ⟨← ofEscape flags (← escape), 0⟩
    | '.' => return some ⟨← dot flags, 0⟩
    | '^' => return some ⟨.look (lineStart flags), 0⟩
    | '$' => return some ⟨.look (lineEnd flags), 0⟩
    | c => return some ⟨ofChar flags c, 0⟩

end

def pattern : Read Expr := do
  let fuel := 4 * (← rest).length + 4
  let e ← combine Expr.ofAlternatives (← alternatives fuel)
  match ← rest with
  | [] => return e.expr
  | _ => throw .unopenedGroup

end Read

end Scaffold.Pattern
