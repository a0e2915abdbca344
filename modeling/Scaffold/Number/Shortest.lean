import Scaffold.Number.Decimal

/-!
The shortest decimal that reads back as a given number: of all decimals that round to it, one with
the fewest digits, and of those the nearest.
-/
namespace Scaffold

namespace Binary64

/-- The reals that round to a positive finite number, from `low / den` to `high / den` around
`value / den`. The ends belong to them when the significand is even. -/
structure Neighbourhood where
  low : Nat
  value : Nat
  high : Nat
  den : Nat
  closed : Bool

def neighbourhood (x : Binary64) : Neighbourhood :=
  let m := x.significand
  -- Below a power of two the numbers stand twice as close.
  let narrow := x.fraction = 0 && 1 < x.exponentField
  let low := if narrow then 4 * m - 1 else 4 * m - 2
  let (scale, den) :=
    if 2 ≤ x.exponent then (Nat.pow 2 (x.exponent - 2).toNat, 1)
    else (1, Nat.pow 2 (2 - x.exponent).toNat)
  ⟨low * scale, 4 * m * scale, (4 * m + 2) * scale, den, m % 2 = 0⟩

namespace Neighbourhood

def inUnits (num den : Nat) (k : Int) : Nat × Nat :=
  if 0 ≤ k then (num, den * Nat.pow 10 k.toNat) else (num * Nat.pow 10 (-k).toNat, den)

def holds (i : Neighbourhood) (k : Int) (d : Nat) : Bool :=
  let (low, den) := inUnits i.low i.den k
  let (high, _) := inUnits i.high i.den k
  if i.closed then low ≤ d * den && d * den ≤ high else low < d * den && d * den < high

/-- The multiple of `10 ^ k` that rounds to the number and is nearest to it, if one of the two
multiples beside it does round to it. -/
def onGrid? (i : Neighbourhood) (k : Int) : Option Nat :=
  let (value, den) := inUnits i.value i.den k
  let below := value / den
  let low := i.holds k below
  let high := i.holds k (below + 1)
  if low && high then some (if 2 * (value % den) < den then below else below + 1)
  else if low then some below
  else if high then some (below + 1)
  else none

/-- The least exponent of ten whose power exceeds the number, found from `k` by at most `steps`
steps. -/
def ceilLog10 (i : Neighbourhood) (k : Int) : Nat → Int
  | 0 => k
  | steps + 1 =>
    let (value, den) := inUnits i.value i.den k
    if value < den then k else ceilLog10 i (k + 1) steps

def search (i : Neighbourhood) (top : Int) (count : Nat) : Nat → Option (Nat × Int)
  | 0 => none
  | steps + 1 =>
    let k := top - count
    match i.onGrid? k with
    | some d => some (d, k)
    | none => search i top (count + 1) steps

end Neighbourhood

def stripZeros (d : Nat) (k : Int) : Nat → Nat × Int
  | 0 => (d, k)
  | steps + 1 => if d ≠ 0 ∧ d % 10 = 0 then stripZeros (d / 10) (k + 1) steps else (d, k)

/-- The shortest decimal of a finite number. Seventeen digits are always enough. -/
def shortest (x : Binary64) : Decimal :=
  if x.isZero then ⟨x.isNegative, 0, 0⟩
  else
    let i := x.neighbourhood
    -- A multiple of log 2, rounded down, so that only a step or two remain.
    let guess := (((x.significand.log2 : Int) + x.exponent) * 30103).fdiv 100000 - 1
    let top := i.ceilLog10 guess 5
    match i.search top 1 17 with
    | some (d, k) =>
      let (d, k) := stripZeros d k 20
      ⟨x.isNegative, d, k⟩
    | none => ⟨x.isNegative, 0, 0⟩

def text (x : Binary64) : String :=
  if x.isNaN then "NaN"
  else if !x.isFinite then (if x.isNegative then "-inf" else "inf")
  else x.shortest.plain

end Binary64

end Scaffold
