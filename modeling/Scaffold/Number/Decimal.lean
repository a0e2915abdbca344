import Scaffold.Number.Binary64

/-!
Decimal numerals: an integer scaled by a power of ten, its text, and the number of 64 bits nearest
to it.
-/
namespace Scaffold

/-- The number `digits * 10 ^ exponent`, with a sign. -/
structure Decimal where
  negative : Bool
  digits : Nat
  exponent : Int
  deriving DecidableEq, Repr

namespace Decimal

def width (n : Nat) : Nat := (Nat.toDigits 10 n).length

/-- The nearest number of 64 bits. Far outside the range nothing is computed. -/
def toBinary64 (d : Decimal) : Binary64 :=
  let top := (width d.digits : Int) + d.exponent
  if d.digits = 0 then .ofMagnitude d.negative 0
  else if 400 < top then .infinity d.negative
  else if top < -400 then .ofMagnitude d.negative 0
  else if 0 ≤ d.exponent then .ofRatio d.negative (d.digits * Nat.pow 10 d.exponent.toNat) 1
  else .ofRatio d.negative d.digits (Nat.pow 10 (-d.exponent).toNat)

def digitsValue (ds : List Char) : Nat :=
  ds.foldl (fun n c => 10 * n + (c.toNat - '0'.toNat)) 0

def readSign : List Char → Bool × List Char
  | '-' :: s => (true, s)
  | '+' :: s => (false, s)
  | s => (false, s)

def readExponent? : List Char → Option Int
  | [] => some 0
  | e :: s =>
    if e = 'e' || e = 'E' then
      let (negative, ds) := readSign s
      if ds.isEmpty || !ds.all Char.isDigit then none
      else some (if negative then -(digitsValue ds : Int) else digitsValue ds)
    else none

/-- Reads sign, digits with at most one point among or beside them, and exponent. -/
def read? (s : List Char) : Option Decimal :=
  let (negative, s) := readSign s
  let whole := s.takeWhile Char.isDigit
  let rest := s.dropWhile Char.isDigit
  let (part, rest) :=
    match rest with
    | '.' :: rest => (rest.takeWhile Char.isDigit, rest.dropWhile Char.isDigit)
    | rest => ([], rest)
  if whole.isEmpty && part.isEmpty then none
  else (readExponent? rest).map fun e => ⟨negative, digitsValue (whole ++ part), e - part.length⟩

def readNumber? (s : String) : Option Binary64 :=
  let (negative, body) := readSign s.toList
  let name := String.ofList (body.map Char.toLower)
  if name = "inf" || name = "infinity" then some (.infinity negative)
  else if name = "nan" then some .nan
  else (read? s.toList).map toBinary64

def plain (d : Decimal) : String :=
  let ds := Nat.toDigits 10 d.digits
  let text :=
    if 0 ≤ d.exponent then ds ++ List.replicate d.exponent.toNat '0'
    else
      let places := (-d.exponent).toNat
      if places < ds.length then ds.take (ds.length - places) ++ '.' :: ds.drop (ds.length - places)
      else '0' :: '.' :: List.replicate (places - ds.length) '0' ++ ds
  String.ofList (if d.negative then '-' :: text else text)

end Decimal

end Scaffold
