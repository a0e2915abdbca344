import Scaffold.Number.Decimal
import Scaffold.Shell.Regex

/-!
Regular expressions from their texts, of which there are two kinds: in a basic one the signs for
groups, choices and counts stand after a backslash, in an extended one without it.
-/
namespace Scaffold.Shell.Regex

inductive Fault where
  | unmatchedBracket
  | unmatchedGroup
  | unmatchedEnd
  | unmatchedCount
  | badCount
  | badReference
  | badRange
  | badClass
  | trailingBackslash
  deriving DecidableEq, Repr

def Fault.message : Fault → String
  | unmatchedBracket => "Invalid regular expression"
  | unmatchedGroup => "Unmatched ( or \\("
  | unmatchedEnd => "Unmatched ) or \\)"
  | unmatchedCount => "Unmatched \\\x7b"
  | badCount => "Invalid content of \\\x7b\\\x7d"
  | badReference => "Invalid back reference"
  | badRange => "Invalid range end"
  | badClass => "Invalid character class name"
  | trailingBackslash => "Trailing backslash"

structure Reader where
  rest : List Char
  isExtended : Bool
  begun : Nat
  ended : List Nat
  depth : Nat

abbrev Reading := StateT Reader (Except Fault)

/-! Brackets. -/

/-- The inside of brackets up to its end, which does not stand first. -/
def bracketParts (isFirst : Bool) :
    List Char → Nat → Except Fault (List (Char × Char) × List String × List Char)
  | [], _ | _, 0 => throw .unmatchedBracket
  | c :: s, fuel + 1 => do
    if c = ']' && !isFirst then return ([], [], s)
    match c, s with
    | '[', ':' :: s =>
      let name := s.takeWhile (· ≠ ':')
      let rest := s.drop name.length
      if !(":]".toList.isPrefixOf rest) then throw .unmatchedBracket
      if !Glob.classNames.contains (String.ofList name) then throw .badClass
      let (ranges, classes, rest) ← bracketParts false (rest.drop 2) fuel
      return (ranges, String.ofList name :: classes, rest)
    | '[', '=' :: d :: '=' :: ']' :: s | '[', '.' :: d :: '.' :: ']' :: s => do
      let (ranges, classes, rest) ← bracketParts false s fuel
      return ((d, d) :: ranges, classes, rest)
    | c, '-' :: d :: s =>
      if d = ']' then
        let (ranges, classes, rest) ← bracketParts false ('-' :: d :: s) fuel
        return ((c, c) :: ranges, classes, rest)
      else if d < c then throw .badRange
      else do
        let (ranges, classes, rest) ← bracketParts false s fuel
        return ((c, d) :: ranges, classes, rest)
    | c, s => do
      let (ranges, classes, rest) ← bracketParts false s fuel
      return ((c, c) :: ranges, classes, rest)

def bracket (s : List Char) : Except Fault (Regex × List Char) := do
  let isTurned := s.head? = some '^'
  let s := if isTurned then s.drop 1 else s
  let (ranges, classes, rest) ← bracketParts true s (s.length + 1)
  return (.oneOf isTurned ranges classes, rest)

/-! Signs. -/

inductive Sign where
  | opening
  | closing
  | bar
  | star
  | plus
  | question
  | count

def signOf? (c : Char) : Option Sign :=
  match c with
  | '(' => some .opening
  | ')' => some .closing
  | '|' => some .bar
  | '+' => some .plus
  | '?' => some .question
  | '\x7b' => some .count
  | _ => none

def sign? (isExtended : Bool) : List Char → Option (Sign × List Char)
  | '*' :: s => some (.star, s)
  | '\\' :: c :: s => if isExtended then none else (signOf? c).map fun sign => (sign, s)
  | c :: s => if isExtended then (signOf? c).map fun sign => (sign, s) else none
  | [] => none

def count (isExtended : Bool) (s : List Char) : Except Fault (Nat × Option Nat × List Char) := do
  let first := s.takeWhile Char.isDigit
  let rest := s.drop first.length
  let least := Decimal.digitsValue first
  let (most, rest) ← match rest with
    | ',' :: rest =>
      let last := rest.takeWhile Char.isDigit
      pure (if last.isEmpty then none else some (Decimal.digitsValue last), rest.drop last.length)
    | rest => if first.isEmpty then throw .badCount else pure (some least, rest)
  if most.any (· < least) then throw .badCount
  match isExtended, rest with
  | true, '\x7d' :: rest => return (least, most, rest)
  | false, '\\' :: '\x7d' :: rest => return (least, most, rest)
  | _, [] => throw .unmatchedCount
  | _, _ => throw .badCount

def repetitions (r : Regex) : Nat → Reading Regex
  | 0 => return r
  | fuel + 1 => do
    let c ← get
    match sign? c.isExtended c.rest with
    | some (.star, rest) => do
      set { c with rest := rest }
      repetitions (.repeated 0 none r) fuel
    | some (.plus, rest) => do
      set { c with rest := rest }
      repetitions (.repeated 1 none r) fuel
    | some (.question, rest) => do
      set { c with rest := rest }
      repetitions (.repeated 0 (some 1) r) fuel
    | some (.count, rest) => do
      let (least, most, rest) ← liftM (count c.isExtended rest)
      set { c with rest := rest }
      repetitions (.repeated least most r) fuel
    | _ => return r

/-- What a backslash makes of a character that is no sign. -/
def escaped (c : Char) : Reading Regex := do
  let wordChars : List (Char × Char) := [('_', '_')]
  match c with
  | '<' => return .wordEdge true false
  | '>' => return .wordEdge false true
  | 'b' => return .wordEdge true true
  | 'B' => return .insideWord
  | 'w' => return .oneOf false wordChars ["alnum"]
  | 'W' => return .oneOf true wordChars ["alnum"]
  | 's' => return .oneOf false [] ["space"]
  | 'S' => return .oneOf true [] ["space"]
  | '\x60' => return .lineStart
  | '\'' => return .lineEnd
  | c =>
    if c.isDigit && c ≠ '0' then
      let n := c.toNat - '0'.toNat
      if (← get).ended.contains n then return .again n else throw .badReference
    else return .char c

def atEnd (c : Reader) : Bool :=
  c.rest.isEmpty ||
    match sign? c.isExtended c.rest with
    | some (.bar, _) => true
    | some (.closing, _) => !c.isExtended || 0 < c.depth
    | _ => false

mutual

def choice : Nat → Reading Regex
  | 0 => return .empty
  | fuel + 1 => do
    let first ← sequence true .empty fuel
    let c ← get
    match sign? c.isExtended c.rest with
    | some (.bar, rest) => do
      set { c with rest := rest }
      return .either first (← choice fuel)
    | _ => return first

/-- One after the other; `isFirst` says that nothing stands before. -/
def sequence (isFirst : Bool) (before : Regex) : Nat → Reading Regex
  | 0 => return before
  | fuel + 1 => do
    let c ← get
    if atEnd c then return before
    else
      let r ← single isFirst fuel
      let isAnchor := r matches .lineStart
      let r ← if isAnchor && !c.isExtended then pure r else repetitions r fuel
      sequence (isFirst && isAnchor) (.both before r) fuel

def single (isFirst : Bool) : Nat → Reading Regex
  | 0 => return .empty
  | fuel + 1 => do
    let c ← get
    let goTo (rest : List Char) : Reading Unit := modify fun c => { c with rest := rest }
    match sign? c.isExtended c.rest with
    | some (.opening, rest) => do
      let n := c.begun + 1
      set { c with rest := rest, begun := n, depth := c.depth + 1 }
      let body ← choice fuel
      let c ← get
      match sign? c.isExtended c.rest with
      | some (.closing, rest) => do
        set { c with rest := rest, ended := n :: c.ended, depth := c.depth - 1 }
        return .group n body
      | _ => throw .unmatchedGroup
    | some (.star, rest) => do
      goTo rest
      return if isFirst then .char '*' else .empty
    | _ =>
      match c.rest with
      | '.' :: rest => do
        goTo rest
        return .any
      | '[' :: rest => do
        let (r, rest) ← liftM (bracket rest)
        goTo rest
        return r
      | '^' :: rest => do
        goTo rest
        return if isFirst || c.isExtended then .lineStart else .char '^'
      | '$' :: rest => do
        goTo rest
        return if c.isExtended || atEnd { c with rest := rest } then .lineEnd else .char '$'
      | ['\\'] => throw .trailingBackslash
      | '\\' :: d :: rest => do
        goTo rest
        escaped d
      | d :: rest => do
        goTo rest
        return .char d
      | [] => return .empty

end

def ofText (isExtended : Bool) (text : String) : Except Fault (Regex × Nat) := do
  let s := text.toList
  let (r, c) ← (choice (8 * s.length + 16)).run ⟨s, isExtended, 0, [], 0⟩
  if !c.rest.isEmpty then throw .unmatchedEnd
  return (r, c.begun)

def literal (text : String) : Regex :=
  text.toList.foldr (fun c r => .both (.char c) r) .empty

end Scaffold.Shell.Regex
