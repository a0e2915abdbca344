import Scaffold.Document.Tree
import Scaffold.Number.Shortest

/-!
JSON texts as document trees, read and written. A number with a fraction or an exponent is read from
its first nineteen or so digits and one power of ten, with a rounding at each of the two steps.
-/
namespace Scaffold.Document.Json

def isBlank (c : Char) : Bool :=
  c = ' ' || c = '\n' || c = '\t' || c = '\r'

def skipBlanks (s : List Char) : List Char :=
  s.dropWhile isBlank

/-! Numbers. -/

/-- The digits of a number that fit into 64 bits, and how many tens the dropped ones are worth. -/
structure Digits where
  significand : Nat
  exponent : Int

def significandLimit : Nat := Nat.pow 2 64

def Digits.addWhole (d : Digits) : List Char → Digits
  | [] => d
  | c :: cs =>
    let next := 10 * d.significand + (c.toNat - '0'.toNat)
    if significandLimit ≤ next then ⟨d.significand, d.exponent + (cs.length + 1)⟩
    else addWhole ⟨next, d.exponent⟩ cs

def Digits.addPart (d : Digits) : List Char → Digits
  | [] => d
  | c :: cs =>
    let next := 10 * d.significand + (c.toNat - '0'.toNat)
    if significandLimit ≤ next then d else addPart ⟨next, d.exponent - 1⟩ cs

def scale (x : Binary64) (exponent : Int) : Nat → Option Binary64
  | 0 => some x
  | steps + 1 =>
    if 308 < exponent.natAbs then
      if x.isZero then some x
      else if 0 ≤ exponent then none
      else scale (x.div (Decimal.toBinary64 ⟨false, 1, 308⟩)) (exponent + 308) steps
    else
      let power := Decimal.toBinary64 ⟨false, 1, exponent.natAbs⟩
      if 0 ≤ exponent then
        let y := x.mul power
        if y.isFinite then some y else none
      else some (x.div power)

def Digits.toNumber? (d : Digits) (negative : Bool) : Option Binary64 :=
  -- Two divisions by the largest power take any significand to zero.
  (scale (.ofNat d.significand) d.exponent 4).map fun x => if negative then x.neg else x

def exponent? : List Char → Option (Option Int × List Char)
  | e :: s =>
    if e = 'e' || e = 'E' then
      let (negative, s) := Decimal.readSign s
      let ds := s.takeWhile Char.isDigit
      if ds.isEmpty then none
      else
        let n := Decimal.digitsValue ds
        some (some (if negative then -(n : Int) else n), s.dropWhile Char.isDigit)
    else some (none, e :: s)
  | [] => some (none, [])

def part? : List Char → Option (Option (List Char) × List Char)
  | '.' :: s =>
    let ds := s.takeWhile Char.isDigit
    if ds.isEmpty then none else some (some ds, s.dropWhile Char.isDigit)
  | s => some (none, s)

/-- An integer that does not fit into 64 bits and its sign is a number, and so is a negative zero. -/
def integer (negative : Bool) (n : Nat) : Scalar :=
  if !negative then .ofAtom (.integer n)
  else if n = 0 || Nat.pow 2 63 < n then .ofAtom (.number (.neg (.ofNat n)))
  else .ofAtom (.integer (-n))

def exponentLimit : Nat := Nat.pow 2 31 - 1

def fractional (negative : Bool) (d : Digits) (exponent : Int) : Scalar :=
  let value? :=
    if exponentLimit < exponent.natAbs then
      if d.significand ≠ 0 && 0 < exponent then none else some (.ofMagnitude negative 0)
    else { d with exponent := d.exponent + exponent }.toNumber? negative
  match value? with
  | some x => .ofAtom (.number x)
  | none => .unreadable

def number? (negative : Bool) (s : List Char) : Option (Scalar × List Char) := do
  let whole := s.takeWhile Char.isDigit
  if whole.isEmpty || (whole.head? = some '0' && 1 < whole.length) then none
  let (part, s) ← part? (s.dropWhile Char.isDigit)
  let (exponent, s) ← exponent? s
  let d := Digits.addWhole ⟨0, 0⟩ whole
  let scalar :=
    match part, exponent with
    | none, none =>
      if d.exponent = 0 then integer negative d.significand else fractional negative d 0
    | _, _ => fractional negative (d.addPart (part.getD [])) (exponent.getD 0)
  return (scalar, s)

/-! Strings. -/

inductive Unit16 where
  | char (c : Char)
  | unit (n : Nat)

def hexDigit? (c : Char) : Option Nat :=
  if c.isDigit then some (c.toNat - '0'.toNat)
  else if 'a' ≤ c && c ≤ 'f' then some (c.toNat - 'a'.toNat + 10)
  else if 'A' ≤ c && c ≤ 'F' then some (c.toNat - 'A'.toNat + 10)
  else none

def hex4? (a b c d : Char) : Option Nat := do
  return ((← hexDigit? a) * 16 + (← hexDigit? b)) * 256 + ((← hexDigit? c) * 16 + (← hexDigit? d))

def escape? : Char → Option Char
  | '"' => some '"'
  | '\\' => some '\\'
  | '/' => some '/'
  | 'b' => some '\x08'
  | 'f' => some '\x0c'
  | 'n' => some '\n'
  | 'r' => some '\r'
  | 't' => some '\t'
  | _ => none

def units? : List Char → Option (List Unit16 × List Char)
  | [] => none
  | '"' :: s => some ([], s)
  | '\\' :: 'u' :: a :: b :: c :: d :: s => do
    let n ← hex4? a b c d
    let (us, rest) ← units? s
    return (.unit n :: us, rest)
  | '\\' :: e :: s => do
    let c ← escape? e
    let (us, rest) ← units? s
    return (.char c :: us, rest)
  | c :: s =>
    if c.toNat < 0x20 || c = '\\' then none
    else do
      let (us, rest) ← units? s
      return (.char c :: us, rest)

def isHigh (n : Nat) : Bool := 0xD800 ≤ n && n < 0xDC00
def isLow (n : Nat) : Bool := 0xDC00 ≤ n && n < 0xE000

/-- The text of a string, unless half of a pair stands alone in it. -/
def ofUnits? : List Unit16 → Option (List Char)
  | [] => some []
  | .char c :: us => (ofUnits? us).map (c :: ·)
  | .unit n :: .unit m :: us =>
    if isHigh n then
      if isLow m then
        (ofUnits? us).map (Char.ofNat (0x10000 + (n - 0xD800) * 0x400 + (m - 0xDC00)) :: ·)
      else none
    else if isLow n then none
    else (ofUnits? (.unit m :: us)).map (Char.ofNat n :: ·)
  | .unit n :: us =>
    if isHigh n || isLow n then none else (ofUnits? us).map (Char.ofNat n :: ·)

def stringScalar (us : List Unit16) : Scalar :=
  match ofUnits? us with
  | some cs => .ofAtom (.text (String.ofList cs))
  | none => .unreadable

/-! Trees. -/

abbrev Part (α : Type) := α × Option (List Char)

def ofOption : Option (Scalar × List Char) → Part Tree
  | some (s, rest) => (.scalar s, some rest)
  | none => (.broken, none)

mutual

/-- Reads a value. Every call takes a character or passes to a part of the value, so that twice the
length of the text is fuel enough. -/
def value (fuel : Nat) (s : List Char) : Part Tree :=
  match fuel with
  | 0 => (.broken, none)
  | fuel + 1 =>
    match skipBlanks s with
    | 'n' :: 'u' :: 'l' :: 'l' :: s => (.null, some s)
    | 't' :: 'r' :: 'u' :: 'e' :: s => (.flag true, some s)
    | 'f' :: 'a' :: 'l' :: 's' :: 'e' :: s => (.flag false, some s)
    | '"' :: s => ofOption ((units? s).map fun (us, rest) => (stringScalar us, rest))
    | '[' :: s =>
      let (items, rest) := firstItem fuel (skipBlanks s)
      (.list items, rest)
    | '{' :: s =>
      let (entries, rest) := firstMember fuel (skipBlanks s)
      (.record entries, rest)
    | '-' :: s => ofOption (number? true s)
    | s => ofOption (number? false s)

def firstItem (fuel : Nat) (s : List Char) : Part (List Tree) :=
  match fuel with
  | 0 => ([.broken], none)
  | fuel + 1 =>
    match s with
    | ']' :: s => ([], some s)
    | s => item fuel s

def item (fuel : Nat) (s : List Char) : Part (List Tree) :=
  match fuel with
  | 0 => ([.broken], none)
  | fuel + 1 =>
    match value fuel s with
    | (t, none) => ([t], none)
    | (t, some s) =>
      match skipBlanks s with
      | ',' :: s =>
        let (ts, rest) := item fuel s
        (t :: ts, rest)
      | ']' :: s => ([t], some s)
      | _ => ([t, .broken], none)

def firstMember (fuel : Nat) (s : List Char) : Part (List (Tree × Tree)) :=
  match fuel with
  | 0 => ([(.broken, .broken)], none)
  | fuel + 1 =>
    match s with
    | '}' :: s => ([], some s)
    | s => member fuel s

def member (fuel : Nat) (s : List Char) : Part (List (Tree × Tree)) :=
  match fuel with
  | 0 => ([(.broken, .broken)], none)
  | fuel + 1 =>
    match skipBlanks s with
    | '"' :: s =>
      match units? s with
      | none => ([(.broken, .broken)], none)
      | some (us, s) =>
        let key := Tree.scalar (stringScalar us)
        match skipBlanks s with
        | ':' :: s =>
          match value fuel s with
          | (t, none) => ([(key, t)], none)
          | (t, some s) =>
            match skipBlanks s with
            | ',' :: s =>
              let (entries, rest) := member fuel s
              ((key, t) :: entries, rest)
            | '}' :: s => ([(key, t)], some s)
            | _ => ([(key, t), (.broken, .broken)], none)
        | _ => ([(key, .broken)], none)
    | _ => ([(.broken, .broken)], none)

end

def read (text : String) : Source :=
  let s := text.toList
  let (root, rest) := value (2 * s.length + 2) s
  ⟨root, #[], rest.any fun s => (skipBlanks s).isEmpty⟩

/-! Writing. -/

def hexDigits (n : Nat) : List Char :=
  let ds := Nat.toDigits 16 n
  List.replicate (4 - ds.length) '0' ++ ds

def writeChar (c : Char) : List Char :=
  match c with
  | '"' => ['\\', '"']
  | '\\' => ['\\', '\\']
  | '\n' => ['\\', 'n']
  | '\r' => ['\\', 'r']
  | '\t' => ['\\', 't']
  | c => if c.toNat < 0x20 then '\\' :: 'u' :: hexDigits c.toNat else [c]

def writeString (s : String) : String :=
  String.ofList ('"' :: s.toList.flatMap writeChar ++ ['"'])

def writeAtom : Atom → String
  | .null => "null"
  | .flag true => "true"
  | .flag false => "false"
  | .integer n => toString n
  | .number x => x.text
  | .text s => writeString s

mutual

/-- Writes a tree without spaces. Only trees of atoms, lists and records have a JSON text; other
places are written as null. -/
def write : Tree → String
  | .scalar s => writeAtom (s.atom?.getD .null)
  | .list items => "[" ++ writeItems items ++ "]"
  | .record entries => "\x7b" ++ writeEntries entries ++ "\x7d"
  | _ => "null"

def writeItems : List Tree → String
  | [] => ""
  | [t] => write t
  | t :: ts => write t ++ "," ++ writeItems ts

def writeEntries : List (Tree × Tree) → String
  | [] => ""
  | [(key, value)] => write key ++ ":" ++ write value
  | (key, value) :: entries => write key ++ ":" ++ write value ++ "," ++ writeEntries entries

end

end Scaffold.Document.Json
