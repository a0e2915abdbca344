import Mathlib.Data.Rat.Floor
import Scaffold.Proofs.Number.Reading

/-! Sums and quotients of numbers that are not negative. Both are rounded from the exact results, and rounding keeps
the order. -/
namespace Scaffold.Binary64

variable {x y : Binary64} {q r : ℚ}

/-! Rounding in order. -/

theorem Rounds.mono (rounds : Rounds q x) (rounds' : Rounds r y) (le : q ≤ r) : x.toRat ≤ y.toRat := by
  by_contra less
  rw [not_le] at less
  have first := rounds.nearest y rounds'.finite
  have second := rounds'.nearest x rounds.finite
  -- Both are half the way between the two numbers, and what is rounded is the same.
  have above : x.toRat + y.toRat ≤ 2 * q := by
    rcases abs_cases (q - x.toRat) with ⟨value, _⟩ | ⟨value, _⟩ <;>
      rcases abs_cases (q - y.toRat) with ⟨value', _⟩ | ⟨value', _⟩ <;> linarith
  have below : 2 * r ≤ x.toRat + y.toRat := by
    rcases abs_cases (r - x.toRat) with ⟨value, _⟩ | ⟨value, _⟩ <;>
      rcases abs_cases (r - y.toRat) with ⟨value', _⟩ | ⟨value', _⟩ <;> linarith
  obtain rfl : q = r := by linarith
  exact absurd (rounds.unique rounds') less.ne'

theorem Rounds.eq_of_natCast {n : ℕ} (rounds : Rounds n x) (small : n ≤ 2 * fractionCount) : x.toRat = n := by
  obtain ⟨y, finite, value⟩ := exists_toRat_eq_intCast (z := n) small
  have exact' := rounds_toRat finite
  rw [value, Int.cast_natCast] at exact'
  rw [rounds.unique exact', value, Int.cast_natCast]

theorem Rounds.nonneg (rounds : Rounds q x) (nonneg : 0 ≤ q) : 0 ≤ x.toRat := by
  obtain ⟨y, finite, value⟩ := exists_toRat_eq_intCast (z := 0) (Nat.zero_le _)
  have zero := rounds_toRat finite
  rw [value, Int.cast_zero] at zero
  have le := zero.mono rounds nonneg
  rwa [value, Int.cast_zero] at le

theorem Rounds.le_two_mul (rounds : Rounds q x) (nonneg : 0 ≤ q) : x.toRat ≤ 2 * q := by
  obtain ⟨y, finite, value⟩ := exists_toRat_eq_intCast (z := 0) (Nat.zero_le _)
  have nearest := rounds.nearest y finite
  rw [value, Int.cast_zero, sub_zero, abs_of_nonneg nonneg] at nearest
  linarith [(abs_le.mp nearest).1]

/-- Up to 64 numbers stand closer than 64 to one. -/
theorem Rounds.abs_sub_le (rounds : Rounds q x) (nonneg : 0 ≤ q) (small : q ≤ 64) : |q - x.toRat| ≤ 1 / 64 := by
  have floor := Nat.floor_le (a := q * 64) (by linarith)
  have next := Nat.lt_floor_add_one (q * 64)
  have bound : ⌊q * 64⌋₊ ≤ 2 * fractionCount :=
    (Nat.floor_le_of_le (n := 4096) (by push_cast; linarith)).trans (by decide)
  obtain ⟨m, inside, value⟩ := exists_line_eq_div bound (show 6 ≤ 1000 by omega)
  obtain ⟨y, finite, place⟩ := exists_place (z := m) inside
  have nearest := rounds.nearest y finite
  rw [toRat_eq y, place, value] at nearest
  refine nearest.trans (abs_le.mpr ⟨?_, ?_⟩)
  · norm_num
    linarith
  · norm_num
    linarith

/-! Numbers that are not negative. -/

theorem isNegative_ofRatio (negative : Bool) (num den : ℕ) : (ofRatio negative num den).isNegative = negative := by
  have room : topExponent * fractionCount < signPlace := by decide
  rw [ofRatio]
  split
  · exact (magnitude_ofMagnitude negative (by decide)).2
  · dsimp only
    split
    · next inside => exact (magnitude_ofMagnitude negative (inside.trans room)).2
    · exact (magnitude_ofMagnitude negative room).2

theorem isNegative_ofNat (n : ℕ) : (ofNat n).isNegative = false := isNegative_ofRatio false n 1

theorem isNegative_add (x y : Binary64) : (x.add y).isNegative = false :=
  isNegative_ofRatio false (x.ratio.1 * y.ratio.2 + y.ratio.1 * x.ratio.2) (x.ratio.2 * y.ratio.2)

theorem isNegative_div (x y : Binary64) : (x.div y).isNegative = (x.isNegative != y.isNegative) :=
  isNegative_ofRatio _ (x.ratio.1 * y.ratio.2) (x.ratio.2 * y.ratio.1)

theorem toRat_eq_ratio (positive : x.isNegative = false) : x.toRat = x.ratio.1 / x.ratio.2 := by
  obtain ⟨den, value⟩ := ratio_spec x
  have den : (x.ratio.2 : ℚ) ≠ 0 := by exact_mod_cast den.ne'
  rw [toRat_eq_size, positive, if_neg Bool.false_ne_true, value, mul_div_cancel_right₀ _ den]

theorem rounds_ofNat {n : ℕ} (small : (n : ℚ) < overflow) : Rounds n (ofNat n) := by
  have rounds := rounds_ofRatio false n one_pos (by rwa [Nat.cast_one, div_one])
  rwa [if_neg Bool.false_ne_true, one_mul, Nat.cast_one, div_one] at rounds

theorem toRat_ofNat {n : ℕ} (small : n ≤ 2 * fractionCount) : (ofNat n).toRat = n := by
  obtain ⟨y, finite, value⟩ := exists_toRat_eq_intCast (z := n) small
  have bounded := (rounds_toRat finite).bounded
  rw [value, Int.cast_natCast, Nat.abs_cast] at bounded
  exact (rounds_ofNat bounded).eq_of_natCast small

theorem rounds_add (positive : x.isNegative = false) (positive' : y.isNegative = false)
    (small : x.toRat + y.toRat < overflow) : Rounds (x.toRat + y.toRat) (x.add y) := by
  obtain ⟨den, -⟩ := ratio_spec x
  obtain ⟨den', -⟩ := ratio_spec y
  have sum : x.toRat + y.toRat =
      ((x.ratio.1 * y.ratio.2 + y.ratio.1 * x.ratio.2 : ℕ) : ℚ) / (x.ratio.2 * y.ratio.2 : ℕ) := by
    have cell : (x.ratio.2 : ℚ) ≠ 0 := by exact_mod_cast den.ne'
    have cell' : (y.ratio.2 : ℚ) ≠ 0 := by exact_mod_cast den'.ne'
    rw [toRat_eq_ratio positive, toRat_eq_ratio positive']
    push_cast
    field_simp
  rw [sum] at small ⊢
  have rounds := rounds_ofRatio false _ (Nat.mul_pos den den') small
  rwa [if_neg Bool.false_ne_true, one_mul] at rounds

theorem rounds_div (positive : x.isNegative = false) (positive' : y.isNegative = false) (nonzero : y.toRat ≠ 0)
    (small : x.toRat / y.toRat < overflow) : Rounds (x.toRat / y.toRat) (x.div y) := by
  obtain ⟨den, -⟩ := ratio_spec x
  obtain ⟨den', -⟩ := ratio_spec y
  have value' := toRat_eq_ratio positive'
  have num : 0 < y.ratio.1 := by
    refine Nat.pos_of_ne_zero fun zero => nonzero ?_
    rw [value', zero, Nat.cast_zero, zero_div]
  have quotient : x.toRat / y.toRat =
      ((x.ratio.1 * y.ratio.2 : ℕ) : ℚ) / (x.ratio.2 * y.ratio.1 : ℕ) := by
    rw [toRat_eq_ratio positive, value', div_div_div_eq]
    push_cast
    rfl
  rw [quotient] at small ⊢
  have rounds := rounds_ofRatio (x.isNegative != y.isNegative) _ (Nat.mul_pos den num) small
  rw [positive, positive', bne_self_eq_false, if_neg Bool.false_ne_true, one_mul] at rounds
  unfold div
  rwa [positive, positive', bne_self_eq_false]

/-! Whole numbers nearest to fractions. -/

theorem abs_roundDiv_sub_le (num : ℕ) {den : ℕ} (positive : 0 < den) : |(roundDiv num den : ℚ) - num / den| ≤ 1 / 2 := by
  obtain ⟨above, below, -⟩ := roundDiv_spec num positive
  have cell : (0 : ℚ) < den := by exact_mod_cast positive
  have above : 2 * (num : ℚ) ≤ (2 * roundDiv num den + 1) * den := by exact_mod_cast above
  have below : 2 * (roundDiv num den : ℚ) * den ≤ 2 * num + den := by exact_mod_cast below
  have left : (roundDiv num den : ℚ) - 1 / 2 ≤ num / den := (le_div_iff₀ cell).mpr (by linarith)
  have right : (num / den : ℚ) ≤ roundDiv num den + 1 / 2 := (div_le_iff₀ cell).mpr (by linarith)
  exact abs_le.mpr ⟨by linarith, by linarith⟩

theorem roundDiv_mono {num den num' den' : ℕ} (positive : 0 < den) (positive' : 0 < den')
    (le : (num / den : ℚ) ≤ num' / den') : roundDiv num den ≤ roundDiv num' den' := by
  by_contra less
  rw [not_le] at less
  have near := (abs_le.mp (abs_roundDiv_sub_le num positive)).2
  have near' := (abs_le.mp (abs_roundDiv_sub_le num' positive')).1
  have step : (roundDiv num' den' : ℚ) + 1 ≤ roundDiv num den := by exact_mod_cast less
  -- Both fractions are half the way between two whole numbers that follow each other, of which one is odd.
  have half : (num / den : ℚ) = roundDiv num den - 1 / 2 := by linarith
  have half' : (num' / den' : ℚ) = roundDiv num' den' + 1 / 2 := by linarith
  have next : roundDiv num den = roundDiv num' den' + 1 := by
    have : (roundDiv num den : ℚ) = roundDiv num' den' + 1 := by linarith
    exact_mod_cast this
  rw [div_eq_iff (by exact_mod_cast positive.ne')] at half
  rw [div_eq_iff (by exact_mod_cast positive'.ne')] at half'
  have even := (roundDiv_spec num positive).2.2 (.inr (by
    have : 2 * (roundDiv num den : ℚ) * den = 2 * num + den := by rw [half]; ring
    exact_mod_cast this))
  have even' := (roundDiv_spec num' positive').2.2 (.inl (by
    have : 2 * (num' : ℚ) = (2 * roundDiv num' den' + 1) * den' := by rw [half']; ring
    exact_mod_cast this))
  omega

end Scaffold.Binary64
