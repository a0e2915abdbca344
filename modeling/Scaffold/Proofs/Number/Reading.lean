import Scaffold.Proofs.Number.Numeral
import Scaffold.Proofs.Number.Rounding

/-! Reading of numbers. A fraction is rounded to the nearest number, and so are decimals and the numerals that are
read as decimals. -/
namespace Scaffold

namespace Binary64

/-! The place of the last digit. -/

theorem scaleDown_spec (num : ℕ) {den : ℕ} (positive : 0 < den) (q : ℤ) : 0 < (scaleDown num den q).2 ∧
    ((scaleDown num den q).1 : ℚ) * 2 ^ q = num / den * (scaleDown num den q).2 := by
  have some : (den : ℚ) ≠ 0 := by exact_mod_cast positive.ne'
  rw [scaleDown]
  split
  · next up =>
    obtain ⟨k, rfl⟩ := Int.eq_ofNat_of_zero_le up
    refine ⟨Nat.mul_pos positive (Nat.pow_pos two_pos), ?_⟩
    rw [Int.toNat_natCast, zpow_natCast]
    change (num : ℚ) * 2 ^ k = num / den * (den * 2 ^ k : ℕ)
    push_cast
    field_simp
  · obtain ⟨k, rfl⟩ : ∃ k : ℕ, q = -k := ⟨(-q).toNat, by omega⟩
    refine ⟨positive, ?_⟩
    rw [neg_neg, Int.toNat_natCast, zpow_neg, zpow_natCast]
    change ((num * 2 ^ k : ℕ) : ℚ) * (2 ^ k)⁻¹ = num / den * den
    push_cast
    field_simp

/-- A scaled fraction is compared with whole numbers as the fraction is with their multiples. -/
theorem le_scaleDown_iff (num : ℕ) {den : ℕ} (positive : 0 < den) (q : ℤ) (k : ℕ) :
    k * (scaleDown num den q).2 ≤ (scaleDown num den q).1 ↔ (k : ℚ) * 2 ^ q ≤ num / den := by
  obtain ⟨some, value⟩ := scaleDown_spec num positive q
  have some' : (0 : ℚ) < (scaleDown num den q).2 := by exact_mod_cast some
  have unit : (0 : ℚ) < 2 ^ q := zpow_pos two_pos q
  rw [← mul_le_mul_iff_left₀ some', ← value, mul_right_comm, mul_le_mul_iff_left₀ unit]
  exact_mod_cast Iff.rfl

theorem log_ratio {num den : ℕ} (positive : 0 < num) (positive' : 0 < den) :
    (2 : ℚ) ^ ((num.log2 : ℤ) - den.log2 - 1) ≤ num / den ∧ (num / den : ℚ) < 2 ^ ((num.log2 : ℤ) - den.log2 + 1) := by
  have low : (2 : ℚ) ^ (num.log2 : ℤ) ≤ num := by
    rw [zpow_natCast]
    exact_mod_cast Nat.log2_self_le positive.ne'
  have high : (num : ℚ) < 2 ^ ((num.log2 : ℤ) + 1) := by
    exact_mod_cast (Nat.lt_log2_self : num < 2 ^ (num.log2 + 1))
  have low' : (2 : ℚ) ^ (den.log2 : ℤ) ≤ den := by
    rw [zpow_natCast]
    exact_mod_cast Nat.log2_self_le positive'.ne'
  have high' : (den : ℚ) < 2 ^ ((den.log2 : ℤ) + 1) := by
    exact_mod_cast (Nat.lt_log2_self : den < 2 ^ (den.log2 + 1))
  have some : (0 : ℚ) < den := by exact_mod_cast positive'
  constructor
  · rw [le_div_iff₀ some]
    calc (2 : ℚ) ^ ((num.log2 : ℤ) - den.log2 - 1) * den
        ≤ 2 ^ ((num.log2 : ℤ) - den.log2 - 1) * 2 ^ ((den.log2 : ℤ) + 1) := by gcongr
      _ = 2 ^ (num.log2 : ℤ) := by rw [← zpow_add₀ two_ne_zero]; congr 1; ring
      _ ≤ num := low
  · rw [div_lt_iff₀ some]
    calc (num : ℚ) < 2 ^ ((num.log2 : ℤ) + 1) := high
      _ = 2 ^ ((num.log2 : ℤ) - den.log2 + 1) * 2 ^ (den.log2 : ℤ) := by
        rw [← zpow_add₀ two_ne_zero]; congr 1; ring
      _ ≤ 2 ^ ((num.log2 : ℤ) - den.log2 + 1) * den := by gcongr

/-- In units of its last place a fraction has no more than 53 binary digits, and no fewer if the unit can be less. -/
theorem placeOf_spec {num den : ℕ} (positive : 0 < num) (positive' : 0 < den) :
    -1074 ≤ placeOf num den ∧ (num / den : ℚ) < 2 * fractionCount * 2 ^ placeOf num den ∧
      (placeOf num den = -1074 ∨ fractionCount * 2 ^ placeOf num den ≤ (num / den : ℚ)) := by
  obtain ⟨low, high⟩ := log_ratio positive positive'
  have count : ((fractionCount : ℕ) : ℚ) = 2 ^ (52 : ℤ) := by norm_num [fractionCount_eq]
  have unfolded : placeOf num den = max (-1074)
      (if (scaleDown num den ((num.log2 : ℤ) - den.log2 - 52)).1 <
        fractionCount * (scaleDown num den ((num.log2 : ℤ) - den.log2 - 52)).2
      then (num.log2 : ℤ) - den.log2 - 52 - 1 else (num.log2 : ℤ) - den.log2 - 52) := rfl
  have less := not_congr (le_scaleDown_iff num positive' ((num.log2 : ℤ) - den.log2 - 52) fractionCount)
  rw [not_le, not_le] at less
  rw [unfolded]
  simp only [less]
  generalize (num.log2 : ℤ) - den.log2 = log at low high
  -- The place if there were no least one.
  obtain ⟨q, place, bound, bound'⟩ : ∃ q : ℤ,
      (if (num / den : ℚ) < fractionCount * 2 ^ (log - 52) then log - 52 - 1 else log - 52) = q ∧
        (num / den : ℚ) < 2 * fractionCount * 2 ^ q ∧ fractionCount * 2 ^ q ≤ (num / den : ℚ) := by
    refine ⟨_, rfl, ?_⟩
    rw [count]
    split
    · next narrow =>
      rw [zpow_sub_one₀ two_ne_zero]
      refine ⟨by linarith, ?_⟩
      rw [← zpow_sub_one₀ two_ne_zero, ← zpow_add₀ two_ne_zero]
      refine le_trans (le_of_eq ?_) low
      congr 1
      ring
    · next wide =>
      refine ⟨high.trans_le (le_of_eq ?_), not_lt.mp wide⟩
      rw [mul_assoc, ← zpow_add₀ two_ne_zero, ← zpow_one_add₀ two_ne_zero]
      congr 1
      ring
  rw [place]
  rcases Int.le_total (-1074) q with inside | outside
  · rw [max_eq_right inside]
    exact ⟨inside, bound, .inr bound'⟩
  · rw [max_eq_left outside]
    refine ⟨le_refl _, bound.trans_le ?_, .inl rfl⟩
    have : (2 : ℚ) ^ q ≤ 2 ^ (-1074 : ℤ) := zpow_le_zpow_right₀ one_le_two outside
    gcongr

/-! Rounding to a multiple of the unit. -/

theorem roundDiv_spec (num : ℕ) {den : ℕ} (positive : 0 < den) :
    2 * num ≤ (2 * roundDiv num den + 1) * den ∧ 2 * roundDiv num den * den ≤ 2 * num + den ∧
      (2 * num = (2 * roundDiv num den + 1) * den ∨ 2 * roundDiv num den * den = 2 * num + den →
        roundDiv num den % 2 = 0) := by
  have whole := Nat.div_add_mod num den
  have rest := Nat.mod_lt num positive
  rw [roundDiv]
  generalize num / den = n at whole ⊢
  generalize num % den = r at whole rest ⊢
  have down : (2 * n + 1) * den = 2 * (den * n) + den := by ring
  have down' : 2 * n * den = 2 * (den * n) := by ring
  have up : (2 * (n + 1) + 1) * den = 2 * (den * n) + 3 * den := by ring
  have up' : 2 * (n + 1) * den = 2 * (den * n) + 2 * den := by ring
  split
  · rw [down, down']
    omega
  · split
    · rw [up, up']
      omega
    · rcases Nat.mod_two_eq_zero_or_one n with even | odd
      · rw [even]
        simp only [Nat.add_zero]
        rw [down, down']
        omega
      · rw [odd, up, up']
        omega

theorem roundDiv_le {num den k : ℕ} (positive : 0 < den) (below : num < k * den) : roundDiv num den ≤ k := by
  have less := (Nat.div_lt_iff_lt_mul positive).mpr below
  rw [roundDiv]
  split <;> [skip; split] <;> omega

theorem le_roundDiv {num den k : ℕ} (positive : 0 < den) (above : k * den ≤ num) : k ≤ roundDiv num den := by
  have less := (Nat.le_div_iff_mul_le positive).mpr above
  rw [roundDiv]
  split <;> [skip; split] <;> omega

/-- The magnitudes whose numbers are multiples of a unit: there are twice as many as the fractions, and below the
first of them only in the least unit. -/
theorem line_unit {e j : ℕ} (least : e = 0 ∨ fractionCount ≤ j) (last : j ≤ 2 * fractionCount) :
    line (e * fractionCount + j : ℕ) = j * 2 ^ (e - 1074 : ℤ) := by
  have power : ∀ z : ℤ, (2 : ℚ) ^ (z + 1) = 2 * 2 ^ z := fun z => by rw [zpow_add_one₀ two_ne_zero, mul_comm]
  rw [line_natCast, size, gap]
  rcases Nat.lt_or_ge j fractionCount with sub | normal
  · have zero : e = 0 := least.resolve_right (by omega)
    subst zero
    rw [Nat.zero_mul, Nat.zero_add, Nat.div_eq_of_lt sub, Nat.mod_eq_of_lt sub, if_pos rfl]
    rfl
  · rcases Nat.eq_or_lt_of_le last with rfl | inside
    · have field : (e * fractionCount + 2 * fractionCount) / fractionCount = e + 2 ∧
          (e * fractionCount + 2 * fractionCount) % fractionCount = 0 := by
        rw [fractionCount_eq]
        omega
      rw [field.1, field.2, if_neg (by omega), show ((max 1 (e + 2) : ℕ) - 1075 : ℤ) = (e - 1074) + 1 by omega, power]
      push_cast
      ring
    · have field : (e * fractionCount + j) / fractionCount = e + 1 ∧
          (e * fractionCount + j) % fractionCount = j - fractionCount := by
        rw [fractionCount_eq] at normal inside ⊢
        omega
      rw [field.1, field.2, if_neg (by omega), show ((max 1 (e + 1) : ℕ) - 1075 : ℤ) = e - 1074 by omega,
        Nat.add_sub_cancel' normal]

theorem unit_le_gap {e m : ℕ} (large : e = 0 ∨ (e + 1) * fractionCount ≤ m) : (2 : ℚ) ^ (e - 1074 : ℤ) ≤ gap m := by
  refine zpow_le_zpow_right₀ one_le_two ?_
  rcases large with rfl | large
  · omega
  · have := (Nat.le_div_iff_mul_le (by decide)).mpr large
    omega

/-- A rational that is rounded to a multiple of the unit is near the number that the multiple is. -/
theorem near_unit {e j : ℕ} {q : ℚ} (least : e = 0 ∨ fractionCount ≤ j) (last : j ≤ 2 * fractionCount)
    (floor : e = 0 ∨ fractionCount * 2 ^ (e - 1074 : ℤ) ≤ q) (nonneg : 0 ≤ q)
    (above : 2 * q ≤ (2 * j + 1) * 2 ^ (e - 1074 : ℤ)) (below : 2 * j * 2 ^ (e - 1074 : ℤ) ≤ 2 * q + 2 ^ (e - 1074 : ℤ))
    (even : 2 * q = (2 * j + 1) * 2 ^ (e - 1074 : ℤ) ∨ 2 * j * 2 ^ (e - 1074 : ℤ) = 2 * q + 2 ^ (e - 1074 : ℤ) →
      j % 2 = 0) : Near q (e * fractionCount + j : ℕ) := by
  have value := line_unit least last
  have parity : j % 2 = 0 → ((e * fractionCount + j : ℕ) : ℤ) % 2 = 0 := by
    rw [fractionCount_eq]
    omega
  have next : (2 : ℚ) ^ (e - 1074 : ℤ) ≤ gap (e * fractionCount + j) := unit_le_gap (by rw [add_mul]; omega)
  have before : line ((e * fractionCount + j : ℕ) - 1) < line (e * fractionCount + j : ℕ) := line_strictMono (by omega)
  rw [value] at before
  have step := line_succ (e * fractionCount + j)
  rw [value] at step
  -- Only a rational below the number can be half the way to the number before it.
  rcases le_or_gt ((j : ℚ) * 2 ^ (e - 1074 : ℤ)) q with up | down
  · refine ⟨by rw [value]; linarith, by rw [value, step]; linarith, ?_⟩
    rw [value, step]
    rintro (half | half)
    · linarith
    · exact parity (even (.inl (by linarith)))
  · have some : 0 < j := by
      refine Nat.pos_of_ne_zero fun zero => ?_
      rw [zero, Nat.cast_zero, zero_mul] at down
      linarith
    have inside : e = 0 ∨ fractionCount < j := by
      refine floor.imp_right fun floor => ?_
      have less := lt_of_mul_lt_mul_right (floor.trans_lt down) (zpow_nonneg zero_le_two _)
      exact_mod_cast less
    have previous : (2 : ℚ) ^ (e - 1074 : ℤ) ≤ gap (e * fractionCount + j - 1) :=
      unit_le_gap (by rw [add_mul]; omega)
    have left := line_pred (m := e * fractionCount + j) (by omega)
    rw [value] at left
    refine ⟨by rw [value, left]; linarith, by rw [value, step]; linarith, ?_⟩
    rw [value, left, step]
    rintro (half | half)
    · exact parity (even (.inr (by linarith)))
    · exact parity (even (.inl (by linarith)))

/-! Fractions. -/

theorem place_le_greatest {q : ℚ} {m : ℕ} (near : Near q m) (small : q < overflow) : m ≤ greatest := by
  by_contra beyond
  have last := size_greatest_add
  rw [← line_natCast, ← line_natCast] at last
  have left : line greatest ≤ line (m - 1) := line_strictMono.monotone (by omega)
  have right : line (greatest + 1 : ℕ) ≤ line m := line_strictMono.monotone (by omega)
  linarith [near.above]

theorem rounds_ofMagnitude {negative : Bool} {q : ℚ} {m : ℕ} (near : Near q m) (small : q < overflow) :
    Rounds ((if negative then -1 else 1) * q) (ofMagnitude negative m) := by
  have bound := place_le_greatest near small
  have top : greatest + 1 = topExponent * fractionCount := by decide
  have room : topExponent * fractionCount ≤ signPlace := by decide
  obtain ⟨same, sign⟩ := magnitude_ofMagnitude (m := m) negative (by omega)
  refine rounds_of_near ((isFinite_iff _).mpr (by omega)) (near_place sign ?_)
  rwa [same]

/-- In units of its last place a fraction is rounded to a whole number. -/
theorem near_roundDiv {n d e : ℕ} {q : ℚ} (positive : 0 < d) (value : (n : ℚ) * 2 ^ (e - 1074 : ℤ) = q * d)
    (high : q < 2 * fractionCount * 2 ^ (e - 1074 : ℤ)) (floor : e = 0 ∨ fractionCount * 2 ^ (e - 1074 : ℤ) ≤ q) :
    Near q (e * fractionCount + roundDiv n d : ℕ) := by
  obtain ⟨above, below, even⟩ := roundDiv_spec n positive
  have cell : (0 : ℚ) < d := by exact_mod_cast positive
  have unit : (0 : ℚ) < 2 ^ (e - 1074 : ℤ) := zpow_pos two_pos _
  obtain ⟨ratio, whole, same⟩ : ∃ ratio : ℚ, (n : ℚ) = ratio * d ∧ q = ratio * 2 ^ (e - 1074 : ℤ) := by
    refine ⟨n / d, (div_mul_cancel₀ _ cell.ne').symm, ?_⟩
    rw [div_mul_eq_mul_div, value, mul_div_cancel_right₀ _ cell.ne']
  have nonneg : 0 ≤ ratio := le_of_mul_le_mul_right (by rw [zero_mul, ← whole]; exact Nat.cast_nonneg n) cell
  have above : 2 * ratio ≤ 2 * roundDiv n d + 1 := by
    refine le_of_mul_le_mul_right ?_ cell
    rw [mul_assoc, ← whole]
    exact_mod_cast above
  have below : 2 * (roundDiv n d : ℚ) ≤ 2 * ratio + 1 := by
    refine le_of_mul_le_mul_right ?_ cell
    rw [add_mul, one_mul, mul_assoc 2 ratio, ← whole]
    exact_mod_cast below
  rw [same, mul_lt_mul_iff_left₀ unit] at high
  rw [same, mul_le_mul_iff_left₀ unit] at floor
  have least : e = 0 ∨ fractionCount ≤ roundDiv n d := by
    refine floor.imp_right fun floor => le_roundDiv positive ?_
    have large : (fractionCount : ℚ) * d ≤ n := whole ▸ mul_le_mul_of_nonneg_right floor cell.le
    exact_mod_cast large
  have last : roundDiv n d ≤ 2 * fractionCount := by
    refine roundDiv_le positive ?_
    have small : (n : ℚ) < 2 * fractionCount * d := whole ▸ mul_lt_mul_of_pos_right high cell
    exact_mod_cast small
  rw [same]
  refine near_unit least last (floor.imp_right fun floor => mul_le_mul_of_nonneg_right floor unit.le)
    (mul_nonneg nonneg unit.le) ?_ ?_ ?_
  · rw [← mul_assoc]
    exact mul_le_mul_of_nonneg_right above unit.le
  · calc 2 * (roundDiv n d : ℚ) * 2 ^ (e - 1074 : ℤ)
        ≤ (2 * ratio + 1) * 2 ^ (e - 1074 : ℤ) := mul_le_mul_of_nonneg_right below unit.le
      _ = 2 * (ratio * 2 ^ (e - 1074 : ℤ)) + 2 ^ (e - 1074 : ℤ) := by ring
  · intro tie
    refine even (tie.imp (fun tie => ?_) fun tie => ?_)
    · have half : 2 * ratio = 2 * roundDiv n d + 1 := mul_right_cancel₀ unit.ne' (by rw [mul_assoc, tie])
      have half : 2 * (n : ℚ) = (2 * roundDiv n d + 1) * d := by rw [whole, ← mul_assoc, half]
      exact_mod_cast half
    · have half : 2 * (roundDiv n d : ℚ) = 2 * ratio + 1 := mul_right_cancel₀ unit.ne' (by rw [tie]; ring)
      have half : 2 * (roundDiv n d : ℚ) * d = 2 * n + d := by rw [whole, half]; ring
      exact_mod_cast half

theorem rounds_ofRatio (negative : Bool) (num : ℕ) {den : ℕ} (positive : 0 < den) (small : (num / den : ℚ) < overflow) :
    Rounds ((if negative then -1 else 1) * (num / den)) (ofRatio negative num den) := by
  by_cases zero : num = 0
  · rw [ofRatio, if_pos zero]
    refine rounds_ofMagnitude ?_ small
    have nothing : (num / den : ℚ) = line (0 : ℕ) := by rw [zero, line_natCast, size_zero, Nat.cast_zero, zero_div]
    exact nothing ▸ .refl _
  · obtain ⟨low, high, floor⟩ := placeOf_spec (Nat.pos_of_ne_zero zero) positive
    obtain ⟨cell, value⟩ := scaleDown_spec num positive (placeOf num den)
    obtain ⟨e, place⟩ : ∃ e : ℕ, placeOf num den = e - 1074 := ⟨(placeOf num den + 1074).toNat, by omega⟩
    rw [ofRatio, if_neg zero]
    dsimp only
    rw [place] at high floor value cell ⊢
    have near := near_roundDiv cell value high (floor.imp_left fun least => by omega)
    have finite := (place_le_greatest near small).trans_lt (show greatest < topExponent * fractionCount by decide)
    rw [sub_add_cancel, Int.toNat_natCast, if_pos finite]
    exact rounds_ofMagnitude near small

/-! Integers. -/

theorem exists_unit {n : ℕ} (positive : 0 < n) (small : n ≤ 2 * fractionCount) :
    ∃ s : ℕ, s ≤ 52 ∧ fractionCount ≤ n * 2 ^ s ∧ n * 2 ^ s ≤ 2 * fractionCount := by
  have low := Nat.log2_self_le positive.ne'
  have high : n < 2 ^ (n.log2 + 1) := Nat.lt_log2_self
  rw [fractionCount_eq] at small ⊢
  rcases Nat.lt_or_ge n.log2 52 with short | long
  · obtain ⟨s, digits⟩ := Nat.exists_eq_add_of_lt short
    refine ⟨s + 1, by omega, ?_, ?_⟩
    · calc 4503599627370496 = 2 ^ 52 := by norm_num
        _ = 2 ^ n.log2 * 2 ^ (s + 1) := by rw [← pow_add, ← add_assoc, ← digits]
        _ ≤ n * 2 ^ (s + 1) := Nat.mul_le_mul_right _ low
    · calc n * 2 ^ (s + 1) ≤ 2 ^ (n.log2 + 1) * 2 ^ (s + 1) := Nat.mul_le_mul_right _ high.le
        _ = 2 ^ (n.log2 + s + 1 + 1) := by rw [← pow_add]; congr 1; ring
        _ = 2 * 4503599627370496 := by rw [← digits]; norm_num
  · refine ⟨0, by omega, ?_, by omega⟩
    calc 4503599627370496 = 2 ^ 52 := by norm_num
      _ ≤ 2 ^ n.log2 := Nat.pow_le_pow_right two_pos long
      _ ≤ n * 2 ^ 0 := by rw [pow_zero, mul_one]; exact low

/-- Fractions of 53 binary digits are among the numbers. -/
theorem exists_line_eq_div {n i : ℕ} (small : n ≤ 2 * fractionCount) (few : i ≤ 1000) :
    ∃ m : ℕ, m < topExponent * fractionCount ∧ line m = n / 2 ^ i := by
  rcases Nat.eq_zero_or_pos n with rfl | positive
  · exact ⟨0, by decide, by rw [line_natCast, size_zero, Nat.cast_zero, zero_div]⟩
  · obtain ⟨s, short, low, high⟩ := exists_unit positive small
    refine ⟨(1074 - (s + i)) * fractionCount + n * 2 ^ s, ?_, ?_⟩
    · have bound : (1074 - (s + i)) * fractionCount ≤ 1074 * fractionCount := Nat.mul_le_mul_right _ (Nat.sub_le _ _)
      rw [topExponent, fractionCount_eq] at *
      omega
    · have power : (2 : ℚ) ^ s ≠ 0 := pow_ne_zero s two_ne_zero
      rw [line_unit (.inr low) high, show (((1074 - (s + i) : ℕ) : ℤ) - 1074) = -((s + i : ℕ) : ℤ) by omega, zpow_neg,
        zpow_natCast, pow_add, Nat.cast_mul, Nat.cast_pow, Nat.cast_ofNat, mul_inv, ← mul_assoc,
        mul_inv_cancel_right₀ power, div_eq_mul_inv]

theorem exists_toRat_eq_intCast {z : ℤ} (small : z.natAbs ≤ 2 * fractionCount) :
    ∃ x : Binary64, x.isFinite = true ∧ x.toRat = z := by
  obtain ⟨m, inside, value⟩ := exists_line_eq_div small (Nat.zero_le 1000)
  rw [pow_zero, div_one] at value
  rcases Int.natAbs_eq z with same | same
  · obtain ⟨x, finite, place⟩ := exists_place (z := m) (by omega)
    refine ⟨x, finite, ?_⟩
    rw [toRat_eq, place, value, same]
    simp
  · obtain ⟨x, finite, place⟩ := exists_place (z := -m) (by omega)
    refine ⟨x, finite, ?_⟩
    rw [toRat_eq, place, line_neg, value, same]
    simp

theorem toRat_ofInt {z : ℤ} (small : z.natAbs ≤ 2 * fractionCount) :
    (ofInt z).isFinite = true ∧ (ofInt z).toRat = z := by
  obtain ⟨x, finite, value⟩ := exists_toRat_eq_intCast small
  have itself := rounds_toRat finite
  rw [value] at itself
  have absolute : ((z.natAbs : ℕ) : ℚ) = |(z : ℚ)| := by rw [Nat.cast_natAbs, Int.cast_abs]
  have signed : (if decide (z < 0) then -1 else 1) * ((z.natAbs : ℕ) / (1 : ℕ) : ℚ) = z := by
    rw [absolute, Nat.cast_one, div_one]
    by_cases negative : z < 0
    · rw [if_pos (decide_eq_true negative), abs_of_neg (by exact_mod_cast negative), neg_one_mul, neg_neg]
    · rw [if_neg (by simpa using negative), abs_of_nonneg (by exact_mod_cast not_lt.mp negative), one_mul]
  have rounded := rounds_ofRatio (decide (z < 0)) z.natAbs one_pos
    (by rw [Nat.cast_one, div_one, absolute]; exact itself.bounded)
  rw [signed] at rounded
  exact ⟨rounded.finite, (rounded.unique itself).trans value⟩

end Binary64

namespace Decimal

open Binary64

/-! Decimals. -/

theorem two_pow_lt_ten_pow : (2 : ℚ) ^ 1076 ≤ 10 ^ 400 :=
  calc (2 : ℚ) ^ 1076 ≤ 2 ^ (3 * 400) := pow_le_pow_right₀ one_le_two (by decide)
    _ = 8 ^ 400 := by rw [pow_mul]; norm_num
    _ ≤ 10 ^ 400 := pow_le_pow_left₀ (by norm_num) (by norm_num) 400

theorem overflow_le : overflow ≤ 10 ^ 400 :=
  calc overflow ≤ 2 ^ 1024 := sub_le_self _ (by positivity)
    _ ≤ 2 ^ 1076 := pow_le_pow_right₀ one_le_two (by decide)
    _ ≤ 10 ^ 400 := two_pow_lt_ten_pow

/-- A number is less than the power of ten with as many zeros as it has digits, and not less than the power before. -/
theorem width_spec {n : ℕ} (positive : 0 < n) : 10 ^ (width n - 1) ≤ n ∧ n < 10 ^ width n := by
  have some : 0 < width n := length_toDigits_pos n
  refine ⟨?_, (Nat.length_toDigits_le_iff (by decide) some).mp (le_refl _)⟩
  rcases Nat.eq_zero_or_pos (width n - 1) with one | more
  · rw [one]
    exact positive
  · refine not_lt.mp fun less => ?_
    have : width n ≤ width n - 1 := (Nat.length_toDigits_le_iff (by decide) more).mpr less
    omega

theorem zpow_width {d : Decimal} (positive : 0 < d.digits) :
    (10 : ℚ) ^ ((width d.digits : ℤ) + d.exponent - 1) ≤ d.digits * 10 ^ d.exponent ∧
      (d.digits * 10 ^ d.exponent : ℚ) < 10 ^ ((width d.digits : ℤ) + d.exponent) := by
  obtain ⟨low, high⟩ := width_spec positive
  have some : 0 < width d.digits := length_toDigits_pos d.digits
  have low : (10 : ℚ) ^ ((width d.digits : ℤ) - 1) ≤ d.digits := by
    rw [show ((width d.digits : ℤ) - 1) = ((width d.digits - 1 : ℕ) : ℤ) by omega, zpow_natCast]
    exact_mod_cast low
  have high : (d.digits : ℚ) < 10 ^ (width d.digits : ℤ) := by
    rw [zpow_natCast]
    exact_mod_cast high
  have unit : (0 : ℚ) < 10 ^ d.exponent := by positivity
  constructor
  · rw [add_sub_right_comm, zpow_add₀ (by norm_num)]
    exact mul_le_mul_of_nonneg_right low unit.le
  · rw [zpow_add₀ (by norm_num)]
    exact mul_lt_mul_of_pos_right high unit

theorem abs_toRat (d : Decimal) : |d.toRat| = d.digits * 10 ^ d.exponent := by
  have nonneg : (0 : ℚ) ≤ d.digits * 10 ^ d.exponent := by positivity
  rw [toRat, mul_assoc]
  split
  · rw [neg_one_mul, abs_neg, abs_of_nonneg nonneg]
  · rw [one_mul, abs_of_nonneg nonneg]

theorem near_zero {q : ℚ} (nonneg : 0 ≤ q) (less : q ≤ 10 ^ (-400 : ℤ)) : Near q (0 : ℕ) := by
  have zero : line (0 : ℕ) = 0 := by rw [line_natCast, size_zero]
  have before : line ((0 : ℕ) - 1) < line (0 : ℕ) := line_strictMono (by omega)
  have next := line_succ 0
  have least : (10 : ℚ) ^ (-400 : ℤ) ≤ 2 ^ (-1076 : ℤ) := by
    rw [zpow_neg, zpow_neg]
    exact inv_anti₀ (by positivity) two_pow_lt_ten_pow
  have quarter : gap 0 = 4 * 2 ^ (-1076 : ℤ) := by
    rw [gap, show ((max 1 (0 / fractionCount) : ℕ) - 1075 : ℤ) = 2 + -1076 by simp, zpow_add₀ two_ne_zero]
    norm_num
  have some := gap_pos 0
  rw [zero] at before next
  exact .of_lt (by rw [zero]; linarith) (by rw [zero, next]; linarith)

theorem rounds_toBinary64 {d : Decimal} (small : |d.toRat| < overflow) : Rounds d.toRat d.toBinary64 := by
  rw [abs_toRat] at small
  rw [toBinary64, toRat, mul_assoc]
  by_cases zero : d.digits = 0
  · rw [if_pos zero]
    refine rounds_ofMagnitude (near_zero (by positivity) ?_) small
    rw [zero, Nat.cast_zero, zero_mul]
    positivity
  rw [if_neg zero]
  obtain ⟨low, high⟩ := zpow_width (Nat.pos_of_ne_zero zero)
  -- What is taken for infinite is beyond the overflow, and what is taken for zero is near it.
  have inside : ¬ 400 < (width d.digits : ℤ) + d.exponent := by
    intro large
    have beyond : (10 : ℚ) ^ (400 : ℤ) ≤ 10 ^ ((width d.digits : ℤ) + d.exponent - 1) :=
      zpow_le_zpow_right₀ (by norm_num) (by omega)
    have top : overflow ≤ 10 ^ (400 : ℤ) := overflow_le
    linarith
  rw [if_neg inside]
  by_cases tiny : (width d.digits : ℤ) + d.exponent < -400
  · rw [if_pos tiny]
    have below : (10 : ℚ) ^ ((width d.digits : ℤ) + d.exponent) ≤ 10 ^ (-400 : ℤ) :=
      zpow_le_zpow_right₀ (by norm_num) (by omega)
    exact rounds_ofMagnitude (near_zero (by positivity) (high.le.trans below)) small
  rw [if_neg tiny]
  by_cases up : 0 ≤ d.exponent
  · obtain ⟨k, same⟩ := Int.eq_ofNat_of_zero_le up
    have value : (d.digits * 10 ^ d.exponent : ℚ) = (d.digits * Nat.pow 10 d.exponent.toNat : ℕ) / (1 : ℕ) := by
      rw [same, Int.toNat_natCast, zpow_natCast, Nat.cast_one, div_one, Nat.cast_mul]
      exact congrArg _ (Nat.cast_pow 10 k).symm
    rw [if_pos up, value]
    exact rounds_ofRatio _ _ one_pos (value ▸ small)
  · obtain ⟨k, same⟩ : ∃ k : ℕ, d.exponent = -k := ⟨(-d.exponent).toNat, by omega⟩
    have value : (d.digits * 10 ^ d.exponent : ℚ) = d.digits / (Nat.pow 10 (-d.exponent).toNat : ℕ) := by
      rw [same, neg_neg, Int.toNat_natCast, zpow_neg, zpow_natCast, div_eq_mul_inv]
      exact congrArg _ (congrArg _ (Nat.cast_pow 10 k).symm)
    rw [if_neg up, value]
    exact rounds_ofRatio _ _ (Nat.pow_pos (by decide)) (value ▸ small)

end Decimal

namespace Numeral

open Decimal

theorem toLower_digit {c : Char} (digit : c.isDigit = true) : c.toLower = c := by
  simp only [Char.isDigit, Bool.and_eq_true, decide_eq_true_iff, ge_iff_le, UInt32.le_iff_toNat_le] at digit
  refine dif_neg fun capital => ?_
  simp only [ge_iff_le, UInt32.le_iff_toNat_le] at capital
  simp at *
  omega

/-- No numeral is the name of an infinity or of what is no number. -/
theorem readNumber?_source (n : Numeral) : readNumber? n.source = some n.decimal.toBinary64 := by
  obtain ⟨c, cs, whole⟩ := List.exists_cons_of_ne_nil n.filled
  have digit : c.isDigit = true := n.digits c (by simp [whole])
  have other : ∀ {letter : Char} {letters : List Char}, letter.isDigit = false →
      String.ofList (n.body.map Char.toLower) ≠ String.ofList (letter :: letters) := by
    rintro letter letters not same
    rw [body, whole, List.cons_append, List.map_cons, toLower_digit digit, String.ofList_inj] at same
    rw [List.head_eq_of_cons_eq same, not] at digit
    cases digit
  rw [readNumber?, readSign_source]
  dsimp only
  have inf : ¬ (decide (String.ofList (n.body.map Char.toLower) = "inf") ||
      decide (String.ofList (n.body.map Char.toLower) = "infinity")) = true := by
    simp only [Bool.or_eq_true, decide_eq_true_iff, not_or]
    exact ⟨other (by rfl), other (by rfl)⟩
  have nan : String.ofList (n.body.map Char.toLower) ≠ "nan" := other (by rfl)
  rw [if_neg inf, if_neg nan, read?_source]
  rfl

theorem rounds_readNumber? {n : Numeral} (small : |n.toRat| < Binary64.overflow) :
    ∃ x, readNumber? n.source = some x ∧ Binary64.Rounds n.toRat x := by
  rw [← toRat_decimal] at small ⊢
  exact ⟨_, readNumber?_source n, rounds_toBinary64 small⟩

end Numeral

end Scaffold
