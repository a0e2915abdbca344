import Mathlib.Algebra.Order.Group.Abs
import Scaffold.Proofs.Number.Magnitude

/-! Rounding to the nearest number, a half to the number whose significand is even. A rational is rounded to the
number at a place of the line when it is no farther from it than half the way to the places beside it. -/
namespace Scaffold.Binary64

/-- Half a step above the greatest finite number. -/
def overflow : ℚ := 2 ^ 1024 - 2 ^ 970

/-- A rational is rounded to a finite number: no other one is nearer, and where another one is as near this one has
an even significand. From the overflow on nothing is rounded to a finite number. -/
structure Rounds (q : ℚ) (x : Binary64) : Prop where
  finite : x.isFinite = true
  bounded : |q| < overflow
  nearest : ∀ y : Binary64, y.isFinite = true → |q - x.toRat| ≤ |q - y.toRat|
  even : ∀ y : Binary64, y.isFinite = true → |q - y.toRat| = |q - x.toRat| → y.toRat ≠ x.toRat →
    x.significand % 2 = 0

/-- A rational is within half the way from a place to the places beside it. -/
structure Near (q : ℚ) (z : ℤ) : Prop where
  above : line (z - 1) + line z ≤ 2 * q
  below : 2 * q ≤ line z + line (z + 1)
  even : line (z - 1) + line z = 2 * q ∨ 2 * q = line z + line (z + 1) → z % 2 = 0

namespace Near

variable {q : ℚ} {z : ℤ}

theorem of_lt (above : line (z - 1) + line z < 2 * q) (below : 2 * q < line z + line (z + 1)) : Near q z := by
  refine ⟨above.le, below.le, ?_⟩
  rintro (half | half)
  · exact absurd half above.ne
  · exact absurd half below.ne

theorem refl (z : ℤ) : Near (line z) z := by
  have left : line (z - 1) < line z := line_strictMono (by omega)
  have right : line z < line (z + 1) := line_strictMono (by omega)
  exact .of_lt (by linarith) (by linarith)

theorem neg (near : Near q z) : Near (-q) (-z) := by
  obtain ⟨above, below, even⟩ := near
  have left : line (-z - 1) = -line (z + 1) := by rw [← line_neg, neg_add']
  have right : line (-z + 1) = -line (z - 1) := by rw [← line_neg, neg_sub, sub_eq_neg_add, add_comm]
  refine ⟨?_, ?_, ?_⟩
  · rw [left, line_neg]
    linarith
  · rw [right, line_neg]
    linarith
  · rw [left, right, line_neg]
    intro half
    have half' : line (z - 1) + line z = 2 * q ∨ 2 * q = line z + line (z + 1) :=
      half.symm.imp (fun same => by linarith) fun same => by linarith
    have := even half'
    omega

theorem nearest (near : Near q z) (w : ℤ) : |q - line z| ≤ |q - line w| := by
  obtain ⟨above, below, -⟩ := near
  rcases lt_trichotomy w z with left | rfl | right
  · have before : line w ≤ line (z - 1) := line_strictMono.monotone (by omega)
    have step : line (z - 1) < line z := line_strictMono (by omega)
    calc |q - line z| ≤ q - line w := abs_le.mpr ⟨by linarith, by linarith⟩
      _ ≤ |q - line w| := le_abs_self _
  · exact le_refl _
  · have after : line (z + 1) ≤ line w := line_strictMono.monotone (by omega)
    have step : line z < line (z + 1) := line_strictMono (by omega)
    calc |q - line z| ≤ line w - q := abs_le.mpr ⟨by linarith, by linarith⟩
      _ ≤ |q - line w| := by
        rw [abs_sub_comm]
        exact le_abs_self _

theorem even_of_tie (near : Near q z) {w : ℤ} (tie : |q - line w| = |q - line z|) (other : line w ≠ line z) :
    z % 2 = 0 := by
  obtain ⟨above, below, even⟩ := near
  -- Half the way between the two, no place is left between them.
  have middle : 2 * q = line w + line z := by
    rcases abs_eq_abs.mp tie with same | opposite
    · exact absurd (by linarith) other
    · linarith
  rcases lt_trichotomy w z with left | rfl | right
  · have before : line w ≤ line (z - 1) := line_strictMono.monotone (by omega)
    exact even (.inl (by linarith))
  · exact absurd rfl other
  · have after : line (z + 1) ≤ line w := line_strictMono.monotone (by omega)
    exact even (.inr (by linarith))

end Near

theorem near_place {x : Binary64} {negative : Bool} {q : ℚ} (sign : x.isNegative = negative) (near : Near q x.magnitude) :
    Near ((if negative then -1 else 1) * q) x.place := by
  subst sign
  rw [place]
  split
  · rw [neg_one_mul]
    exact near.neg
  · rwa [one_mul]

/-! The end of the line. -/

/-- The place of the greatest finite number. -/
def greatest : ℕ := topExponent * fractionCount - 1

theorem gap_greatest : gap greatest = 2 ^ 971 := by
  have field : greatest / fractionCount = 2046 := by decide
  rw [gap, field, ← zpow_natCast]
  rfl

theorem size_greatest_succ : size (greatest + 1) = 2 ^ 1024 := by
  have field : (greatest + 1) / fractionCount = 2047 := by decide
  have fraction : (greatest + 1) % fractionCount = 0 := by decide
  have power : ((fractionCount : ℕ) : ℚ) = 2 ^ (52 : ℤ) := by norm_num [fractionCount_eq]
  rw [size, gap, field, fraction, if_neg (by decide), Nat.add_zero, power, ← zpow_add₀ two_ne_zero,
    ← zpow_natCast]
  rfl

theorem size_greatest_add : size greatest + size (greatest + 1) = 2 * overflow := by
  have before : size greatest + 2 ^ 971 = 2 ^ 1024 := by
    rw [← gap_greatest, ← size_succ, size_greatest_succ]
  have half : (2 : ℚ) ^ 971 = 2 * 2 ^ 970 := pow_succ' 2 970
  rw [size_greatest_succ, overflow]
  rw [half] at before
  generalize (2 : ℚ) ^ 1024 = top at before ⊢
  generalize (2 : ℚ) ^ 970 = step at before ⊢
  linarith

theorem isFinite_iff_place {x : Binary64} : x.isFinite = true ↔ x.place ≤ greatest ∧ -greatest ≤ x.place := by
  have positive : 0 < topExponent * fractionCount := by decide
  have place := natAbs_place x
  rw [isFinite_iff, greatest]
  omega

theorem Near.lt {q : ℚ} {z : ℤ} (near : Near q z) (finite : z ≤ greatest) : q < overflow := by
  have last := size_greatest_add
  rw [← line_natCast, ← line_natCast, Nat.cast_succ] at last
  rcases Int.lt_or_eq_of_le finite with inside | rfl
  · have step : line z < line greatest := line_strictMono inside
    have next : line (z + 1) ≤ line greatest := line_strictMono.monotone inside
    have beyond : line greatest < line (greatest + 1) := line_strictMono (by omega)
    linarith [near.below]
  · -- The greatest number has an odd significand, so that half a step above it is too far.
    refine lt_of_le_of_ne (by linarith [near.below]) fun same => ?_
    exact absurd (near.even (.inr (same ▸ last.symm))) (by decide)

theorem significand_mod_two (x : Binary64) : x.significand % 2 = x.magnitude % 2 := by
  rw [significand, fraction, fractionCount_eq]
  split <;> omega

theorem place_mod_two (x : Binary64) : x.place % 2 = 0 ↔ x.significand % 2 = 0 := by
  have place := natAbs_place x
  rw [significand_mod_two]
  omega

theorem rounds_of_near {q : ℚ} {x : Binary64} (finite : x.isFinite = true) (near : Near q x.place) :
    Rounds q x := by
  obtain ⟨low, high⟩ := isFinite_iff_place.mp finite
  refine ⟨finite, abs_lt.mpr ⟨?_, near.lt low⟩, fun y _ => ?_, fun y _ tie other => ?_⟩
  · have := near.neg.lt (by omega)
    linarith
  · rw [toRat_eq, toRat_eq]
    exact near.nearest y.place
  · rw [toRat_eq, toRat_eq] at tie other
    exact (place_mod_two x).mp (near.even_of_tie tie other)

theorem rounds_toRat {x : Binary64} (finite : x.isFinite = true) : Rounds x.toRat x :=
  toRat_eq x ▸ rounds_of_near finite (.refl x.place)

/-- Between two numbers that are as near to a rational and have even significands there is a nearer one. -/
theorem Rounds.unique_of_le {q : ℚ} {x y : Binary64} (rounds : Rounds q x) (other : Rounds q y) :
    y.toRat ≤ x.toRat := by
  by_contra less
  rw [not_le] at less
  have tie : |q - x.toRat| = |q - y.toRat| :=
    le_antisymm (rounds.nearest y other.finite) (other.nearest x rounds.finite)
  have even := (place_mod_two x).mpr (rounds.even y other.finite tie.symm less.ne')
  have even' := (place_mod_two y).mpr (other.even x rounds.finite tie less.ne)
  rw [toRat_eq, toRat_eq] at less tie
  have apart := line_strictMono.lt_iff_lt.mp less
  have bounds := isFinite_iff_place.mp rounds.finite
  have bounds' := isFinite_iff_place.mp other.finite
  obtain ⟨u, finite, between⟩ := exists_place (z := x.place + 1) (by
    have positive : 0 < topExponent * fractionCount := by decide
    rw [greatest] at bounds bounds'
    omega)
  -- The place after the first is not the second, since both are even, and so it is nearer than either.
  have nearest := rounds.nearest u finite
  rw [toRat_eq, toRat_eq, between] at nearest
  have left : line x.place < line (x.place + 1) := line_strictMono (by omega)
  have right : line (x.place + 1) < line y.place := line_strictMono (by omega)
  have middle : 2 * q = line x.place + line y.place := by
    rcases abs_eq_abs.mp tie with same | opposite
    · exact absurd (by linarith) less.ne
    · linarith
  have nearer : |q - line (x.place + 1)| < |q - line x.place| := by
    rw [abs_of_pos (by linarith : 0 < q - line x.place)]
    exact abs_lt.mpr ⟨by linarith, by linarith⟩
  exact absurd nearest (not_le.mpr nearer)

theorem Rounds.unique {q : ℚ} {x y : Binary64} (rounds : Rounds q x) (other : Rounds q y) : x.toRat = y.toRat :=
  le_antisymm (other.unique_of_le rounds) (rounds.unique_of_le other)

end Scaffold.Binary64
