/-!
Floating-point numbers of 64 bits, held as their bits and read as exact rationals. Every
operation rounds the exact result to the nearest number, a half to the even neighbour.
-/
namespace Scaffold

structure Binary64 where
  bits : UInt64
  deriving DecidableEq, Repr, Inhabited

namespace Binary64

def signPlace : Nat := Nat.pow 2 63
def fractionCount : Nat := Nat.pow 2 52
def topExponent : Nat := 2047

def magnitude (x : Binary64) : Nat := x.bits.toNat % signPlace
def isNegative (x : Binary64) : Bool := signPlace ≤ x.bits.toNat
def exponentField (x : Binary64) : Nat := x.magnitude / fractionCount
def fraction (x : Binary64) : Nat := x.magnitude % fractionCount

def isFinite (x : Binary64) : Bool := x.exponentField < topExponent
def isNaN (x : Binary64) : Bool := topExponent * fractionCount < x.magnitude
def isZero (x : Binary64) : Bool := x.magnitude = 0

/-- The absolute value of a finite number is `significand * 2 ^ exponent`. -/
def significand (x : Binary64) : Nat :=
  if x.exponentField = 0 then x.fraction else fractionCount + x.fraction

def exponent (x : Binary64) : Int :=
  if x.exponentField = 0 then -1074 else (x.exponentField : Int) - 1075

def ofMagnitude (negative : Bool) (magnitude : Nat) : Binary64 :=
  ⟨UInt64.ofNat (magnitude + if negative then signPlace else 0)⟩

def zero : Binary64 := ofMagnitude false 0
def nan : Binary64 := ofMagnitude false (topExponent * fractionCount + Nat.pow 2 51)
def infinity (negative : Bool) : Binary64 := ofMagnitude negative (topExponent * fractionCount)

/-- The integer nearest to `num / den`, a half to the even neighbour. -/
def roundDiv (num den : Nat) : Nat :=
  let quotient := num / den
  let twice := 2 * (num % den)
  if twice < den then quotient
  else if den < twice then quotient + 1
  else quotient + quotient % 2

def scaleDown (num den : Nat) (q : Int) : Nat × Nat :=
  if 0 ≤ q then (num, den * Nat.pow 2 q.toNat) else (num * Nat.pow 2 (-q).toNat, den)

/-- The exponent of the last place of a number near the positive rational `num / den`. -/
def placeOf (num den : Nat) : Int :=
  let guess : Int := (num.log2 : Int) - den.log2 - 52
  let (n, d) := scaleDown num den guess
  max (-1074) (if n < fractionCount * d then guess - 1 else guess)

def ofRatio (negative : Bool) (num den : Nat) : Binary64 :=
  if num = 0 then ofMagnitude negative 0
  else
    let q := placeOf num den
    let (n, d) := scaleDown num den q
    -- A significand of 2 ^ 53 carries into the exponent field by itself.
    let magnitude := (q + 1074).toNat * fractionCount + roundDiv n d
    if magnitude < topExponent * fractionCount then ofMagnitude negative magnitude
    else infinity negative

def ratio (x : Binary64) : Nat × Nat :=
  if 0 ≤ x.exponent then (x.significand * Nat.pow 2 x.exponent.toNat, 1)
  else (x.significand, Nat.pow 2 (-x.exponent).toNat)

def whole? (x : Binary64) : Option Int :=
  let (num, den) := x.ratio
  if x.isFinite && num % den = 0 then
    some (if x.isNegative then -((num / den : Nat) : Int) else (num / den : Nat))
  else none

def ofNat (n : Nat) : Binary64 := ofRatio false n 1

def ofInt (n : Int) : Binary64 := ofRatio (n < 0) n.natAbs 1

/-- Sum of finite non-negative numbers. -/
def add (x y : Binary64) : Binary64 :=
  let (a, b) := x.ratio
  let (c, d) := y.ratio
  ofRatio false (a * d + c * b) (b * d)

def mul (x y : Binary64) : Binary64 :=
  let (a, b) := x.ratio
  let (c, d) := y.ratio
  ofRatio (x.isNegative != y.isNegative) (a * c) (b * d)

/-- Quotient of finite numbers, the second not zero. -/
def div (x y : Binary64) : Binary64 :=
  let (a, b) := x.ratio
  let (c, d) := y.ratio
  ofRatio (x.isNegative != y.isNegative) (a * d) (b * c)

def neg (x : Binary64) : Binary64 :=
  ofMagnitude (!x.isNegative) x.magnitude

def hex (x : Binary64) : String :=
  let digits := Nat.toDigits 16 x.bits.toNat
  String.ofList (List.replicate (16 - digits.length) '0' ++ digits)

end Binary64

end Scaffold
