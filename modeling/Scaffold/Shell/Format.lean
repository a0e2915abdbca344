import Scaffold.Number.Decimal
import Scaffold.Shell.Arithmetic
import Scaffold.Shell.Escape

/-!
Formats of printed texts: each conversion in a format takes the next of the arguments.
-/
namespace Scaffold.Shell.Format

structure Conversion where
  flags : List Char
  width : Nat
  precision : Option Nat
  letter : Char

namespace Conversion

def has (c : Conversion) (flag : Char) : Bool := c.flags.contains flag

def fill (c : Conversion) (text : List Char) : List Char :=
  let gap := List.replicate (c.width - text.length) ' '
  if c.has '-' then text ++ gap else gap ++ text

def fillNumber (c : Conversion) (sign digits : List Char) (mayZero : Bool) : List Char :=
  let zeros :=
    if mayZero && c.has '0' && !c.has '-' then
      List.replicate (c.width - sign.length - digits.length) '0'
    else []
  c.fill (sign ++ zeros ++ digits)

def sign (c : Conversion) (isNegative : Bool) : List Char :=
  if isNegative then ['-'] else if c.has '+' then ['+'] else if c.has ' ' then [' '] else []

def integer (c : Conversion) (n : Int) : List Char :=
  let isSigned := c.letter = 'd' || c.letter = 'i'
  let radix := match c.letter with | 'o' => 8 | 'x' | 'X' => 16 | _ => 10
  let magnitude := if isSigned then n.natAbs else (n % Int.pow 2 64).toNat
  let ds := if magnitude = 0 && c.precision = some 0 then [] else Nat.toDigits radix magnitude
  let ds := if c.letter = 'X' then ds.map Char.toUpper else ds
  let ds := List.replicate (c.precision.getD 1 - ds.length) '0' ++ ds
  let ds := if c.letter = 'o' && c.has '#' && ds.head? ≠ some '0' then '0' :: ds else ds
  let front :=
    if isSigned then c.sign (n < 0)
    else if c.has '#' && magnitude ≠ 0 && radix = 16 then ['0', c.letter]
    else []
  c.fillNumber front ds c.precision.isNone

/-! Numbers with a point. -/

/-- The digits of a fraction after so many places, rounded to the nearest, and a half to even. -/
def fixedDigits (num den places : Nat) : List Char :=
  let scaled := Binary64.roundDiv (num * Nat.pow 10 places) den
  let ds := Nat.toDigits 10 scaled
  let ds := List.replicate (places + 1 - ds.length) '0' ++ ds
  if places = 0 then ds else ds.take (ds.length - places) ++ '.' :: ds.drop (ds.length - places)

/-- The power of ten of the first digit of a positive fraction. -/
def magnitudeOf (num den : Nat) : Int :=
  let guess : Int := (Nat.toDigits 10 num).length - (Nat.toDigits 10 den).length
  let reaches (e : Int) : Bool :=
    if 0 ≤ e then den * Nat.pow 10 e.toNat ≤ num else den ≤ num * Nat.pow 10 (-e).toNat
  if reaches guess then guess else guess - 1

def scientificDigits (num den places : Nat) : List Char × Int :=
  if num = 0 then (fixedDigits 0 1 places, 0)
  else
    let e := magnitudeOf num den
    let scaled (e : Int) : Nat × Nat :=
      if 0 ≤ e then (num, den * Nat.pow 10 e.toNat) else (num * Nat.pow 10 (-e).toNat, den)
    let (n, d) := scaled e
    let ds := fixedDigits n d places
    if (ds.takeWhile (· ≠ '.')).length = 1 then (ds, e)
    else
      let (n, d) := scaled (e + 1)
      (fixedDigits n d places, e + 1)

def exponentText (letter : Char) (e : Int) : List Char :=
  let ds := Nat.toDigits 10 e.natAbs
  letter :: (if e < 0 then '-' else '+') :: (List.replicate (2 - ds.length) '0' ++ ds)

def withoutZeros (ds : List Char) : List Char :=
  if ds.contains '.' then
    let kept := ds.reverse.dropWhile (· = '0')
    (if kept.head? = some '.' then kept.drop 1 else kept).reverse
  else ds

def real (c : Conversion) (x : Binary64) : List Char :=
  let cased (s : String) := if c.letter.isUpper then s.toList.map Char.toUpper else s.toList
  let sign := c.sign x.isNegative
  if x.isNaN then c.fillNumber sign (cased "nan") false
  else if !x.isFinite then c.fillNumber sign (cased "inf") false
  else
    let (num, den) := x.ratio
    let precision := c.precision.getD 6
    let e := if c.letter.isUpper then 'E' else 'e'
    let digits := match c.letter.toLower with
      | 'e' =>
        let (ds, power) := scientificDigits num den precision
        ds ++ exponentText e power
      | 'g' =>
        let precision := max precision 1
        let (ds, power) := scientificDigits num den (precision - 1)
        let shown (ds : List Char) := if c.has '#' then ds else withoutZeros ds
        if power < -4 || (precision : Int) ≤ power then shown ds ++ exponentText e power
        else shown (fixedDigits num den ((precision : Int) - 1 - power).toNat)
      | _ => fixedDigits num den precision
    c.fillNumber sign digits true

end Conversion

/-! Reading arguments as numbers. -/

inductive Complaint where
  | notNumeric (text : String)
  | notWhole (text : String)
  | outOfRange (text : String)
  deriving DecidableEq, Repr

def integerOf (isSigned : Bool) (arg : String) : Int × Option Complaint :=
  match arg.toList with
  | '\'' :: c => ((c.headD '\x00').toNat, none)
  | '"' :: c => ((c.headD '\x00').toNat, none)
  | s =>
    let top : Int := if isSigned then Arithmetic.largest else Int.pow 2 64 - 1
    match Arithmetic.integer? none s with
    | none => (0, if s.isEmpty then none else some (.notNumeric arg))
    | some (n, rest) =>
      let kept := if top < n then top else if n < Arithmetic.least then Arithmetic.least else n
      let complaint :=
        if !rest.isEmpty then some (.notWhole arg)
        else if kept ≠ n then some (.outOfRange arg)
        else none
      (kept, complaint)

def realText (s : List Char) : List Char × List Char :=
  let skip := s.takeWhile fun c => c = ' ' || c = '\t'
  let s := s.drop skip.length
  let lengths := (List.range (s.length + 1)).reverse
  match lengths.find? fun n => (Decimal.readNumber? (String.ofList (s.take n))).isSome with
  | some n => (s.take n, s.drop n)
  | none => ([], s)

def realOf (arg : String) : Binary64 × Option Complaint :=
  match arg.toList with
  | '\'' :: c => (.ofNat (c.headD '\x00').toNat, none)
  | '"' :: c => (.ofNat (c.headD '\x00').toNat, none)
  | s =>
    let (text, rest) := realText s
    let value := (Decimal.readNumber? (String.ofList text)).getD .zero
    let complaint :=
      if rest.isEmpty then none
      else if text.isEmpty then some (.notNumeric arg)
      else some (.notWhole arg)
    (value, complaint)

/-! Printing. -/

inductive Halt where
  /-- An argument says that nothing may follow. -/
  | asked
  | badDirective (text : String)
  | missingLetter
  deriving DecidableEq, Repr

structure Output where
  printed : List Char
  args : List String
  complaints : List Complaint
  halt : Option Halt

namespace Output

def put (text : List Char) (o : Output) : Output := { o with printed := text.reverse ++ o.printed }

def count (o : Output) : Int × Output :=
  let (n, complaint) := integerOf true (o.args.headD "")
  (n, { o with args := o.args.drop 1, complaints := o.complaints ++ complaint.toList })

def size (o : Output) (s : List Char) : Option Int × Output × List Char :=
  match s with
  | '*' :: s =>
    let (n, o) := o.count
    (some n, o, s)
  | s =>
    let ds := s.takeWhile Char.isDigit
    (if ds.isEmpty then none else some (Decimal.digitsValue ds), o, s.drop ds.length)

/-- A conversion of the next argument; without one it is an empty text. -/
def convert (o : Output) (c : Conversion) (directive : List Char) : Output :=
  let arg := o.args.headD ""
  let next : Output := { o with args := o.args.drop 1 }
  let short (text : List Char) := c.precision.elim text text.take
  let complain (complaint : Option Complaint) : Output :=
    { next with complaints := next.complaints ++ complaint.toList }
  match c.letter with
  | 's' => next.put (c.fill (short arg.toList))
  | 'c' => next.put (c.fill (if arg.isEmpty then ['\x00'] else arg.toList.take 1))
  | 'b' =>
    let (text, stops) := Escape.unescaped arg.toList
    { next.put (c.fill (short text)) with halt := if stops then some .asked else none }
  | letter =>
    if letter = 'd' || letter = 'i' then
      let (n, complaint) := integerOf true arg
      (complain complaint).put (c.integer n)
    else if "ouxX".contains letter then
      let (n, complaint) := integerOf false arg
      (complain complaint).put (c.integer n)
    else if "eEfFgG".contains letter then
      let (x, complaint) := realOf arg
      (complain complaint).put (c.real x)
    else { o with halt := some (.badDirective (String.ofList directive)) }

def directive (o : Output) (s : List Char) : Output × List Char :=
  let flags := s.takeWhile fun c => "-+ #0".contains c
  let (width, o, rest) := o.size (s.drop flags.length)
  let (precision, o, rest) := match rest with
    | '.' :: rest =>
      let (n, o, rest) := o.size rest
      (some (n.getD 0), o, rest)
    | rest => (none, o, rest)
  match rest with
  | [] => ({ o with halt := some .missingLetter }, [])
  | letter :: rest =>
    let width := width.getD 0
    let flags := if width < 0 then '-' :: flags else flags
    let precision := precision.bind fun n => if n < 0 then none else some n.toNat
    let text := '%' :: s.take (s.length - rest.length)
    (o.convert ⟨flags, width.natAbs, precision, letter⟩ text, rest)

def once (o : Output) : List Char → Nat → Output
  | [], _ | _, 0 => o
  | c :: s, fuel + 1 =>
    if o.halt.isSome then o
    else
      match c, s with
      | '%', '%' :: s => (o.put ['%']).once s fuel
      | '%', s =>
        let (o, s) := o.directive s
        o.once s fuel
      | '\\', s =>
        match Escape.read? s with
        | some (c, rest) => (o.put [c]).once rest fuel
        | none => (o.put ['\\']).once s fuel
      | c, s => (o.put [c]).once s fuel

/-- Repeats a format as long as it takes arguments and some are left. -/
def repeated (format : List Char) (o : Output) : Nat → Output
  | 0 => o
  | fuel + 1 =>
    let next := o.once format (format.length + 1)
    if next.halt.isSome || next.args.isEmpty || next.args.length = o.args.length then next
    else next.repeated format fuel

def text (o : Output) : String := String.ofList o.printed.reverse

end Output

def print (format : String) (args : List String) : Output :=
  Output.repeated format.toList ⟨[], args, [], none⟩ (args.length + 1)

end Scaffold.Shell.Format
