import Mathlib.Tactic.LinearCombination
import Mathlib.Tactic.NormNum
import Scaffold.Number.Shortest
import Scaffold.Proofs.Number.Rounding

/-! The search for a short decimal. Every decimal that it tries has been found near the number, and with seventeen
digits the decimals are so close together that one of them is. -/
namespace Scaffold.Binary64

namespace Neighbourhood

structure Surrounds (i : Neighbourhood) (m : ℕ) : Prop where
  den : 0 < i.den
  low : 2 * (i.low : ℚ) = (line (m - 1) + line m) * i.den
  value : (i.value : ℚ) = line m * i.den
  high : 2 * (i.high : ℚ) = (line m + line (m + 1)) * i.den
  closed : i.closed = true ↔ m % 2 = 0

end Neighbourhood

open Neighbourhood

theorem significand_pos {x : Binary64} (positive : 0 < x.magnitude) : 0 < x.significand := by
  rw [significand, exponentField, fraction]
  rw [fractionCount_eq]
  split <;> omega

theorem exists_quarter (e : ℤ) : ∃ scale den : ℕ,
    (if 2 ≤ e then (Nat.pow 2 (e - 2).toNat, 1) else (1, Nat.pow 2 (2 - e).toNat)) = (scale, den) ∧
      0 < den ∧ 4 * (scale : ℚ) = 2 ^ e * den := by
  split
  · next large =>
    obtain ⟨n, rfl⟩ : ∃ n : ℕ, e = n + 2 := ⟨(e - 2).toNat, by omega⟩
    refine ⟨2 ^ n, 1, by rw [add_sub_cancel_right, Int.toNat_natCast]; rfl, one_pos, ?_⟩
    rw [zpow_add₀ two_ne_zero, zpow_natCast]
    push_cast
    norm_num
    ring
  · next small =>
    obtain ⟨n, rfl⟩ : ∃ n : ℕ, e = 2 - n := ⟨(2 - e).toNat, by omega⟩
    refine ⟨1, 2 ^ n, by rw [sub_sub_cancel, Int.toNat_natCast]; rfl, by positivity, ?_⟩
    rw [zpow_sub₀ two_ne_zero, zpow_natCast]
    push_cast
    field_simp

theorem surrounds_neighbourhood {x : Binary64} (positive : 0 < x.magnitude) :
    x.neighbourhood.Surrounds x.magnitude := by
  obtain ⟨scale, den, quarter, some, scaled⟩ := exists_quarter x.exponent
  have significand := significand_pos positive
  have size : line x.magnitude = x.significand * 2 ^ x.exponent := by rw [line_natCast, size_magnitude]
  have step := gap_magnitude x
  have before : gap (x.magnitude - 1) =
      if x.fraction = 0 ∧ 1 < x.exponentField then gap x.magnitude / 2 else gap x.magnitude := gap_pred positive
  have whole : x.neighbourhood = ⟨(if x.fraction = 0 && 1 < x.exponentField then 4 * x.significand - 1
      else 4 * x.significand - 2) * scale, 4 * x.significand * scale, (4 * x.significand + 2) * scale, den,
      x.significand % 2 = 0⟩ := by
    simp only [neighbourhood, quarter]
  rw [whole]
  refine ⟨some, ?_, ?_, ?_, ?_⟩ <;> dsimp only
  · rw [line_pred positive, before, step, size]
    by_cases narrow : x.fraction = 0 ∧ 1 < x.exponentField
    · rw [if_pos narrow, if_pos (by simpa using narrow), Nat.cast_mul, Nat.cast_sub (by omega)]
      push_cast
      linear_combination (2 * (x.significand : ℚ) - 1 / 2) * scaled
    · rw [if_neg narrow, if_neg (by simpa using narrow), Nat.cast_mul, Nat.cast_sub (by omega)]
      push_cast
      linear_combination (2 * (x.significand : ℚ) - 1) * scaled
  · rw [size]
    push_cast
    linear_combination (x.significand : ℚ) * scaled
  · rw [line_succ, step, size]
    push_cast
    linear_combination (2 * (x.significand : ℚ) + 1) * scaled
  · rw [decide_eq_true_iff, significand_mod_two]

namespace Neighbourhood

/-- What both numbers of a fraction are multiplied by to have it in units of `10 ^ k`. -/
def unitScale (k : ℤ) : ℚ := if 0 ≤ k then 1 else 10 ^ (-k)

theorem unitScale_pos (k : ℤ) : 0 < unitScale k := by
  unfold unitScale
  split
  · exact one_pos
  · positivity

theorem inUnits_fst (num den : ℕ) (k : ℤ) : ((inUnits num den k).1 : ℚ) = num * unitScale k := by
  unfold inUnits unitScale
  split
  · exact (mul_one _).symm
  · next negative =>
    obtain ⟨n, rfl⟩ : ∃ n : ℕ, k = -n := ⟨(-k).toNat, by omega⟩
    rw [neg_neg, Int.toNat_natCast, zpow_natCast]
    exact Nat.cast_mul num (10 ^ n) |>.trans (by rw [Nat.cast_pow, Nat.cast_ofNat])

theorem inUnits_snd (num den : ℕ) (k : ℤ) : ((inUnits num den k).2 : ℚ) = den * 10 ^ k * unitScale k := by
  unfold inUnits unitScale
  split
  · next positive =>
    obtain ⟨n, rfl⟩ := Int.eq_ofNat_of_zero_le positive
    rw [Int.toNat_natCast, zpow_natCast, mul_one]
    exact Nat.cast_mul den (10 ^ n) |>.trans (by rw [Nat.cast_pow, Nat.cast_ofNat])
  · rw [mul_assoc, ← zpow_add₀ (by norm_num), add_neg_cancel, zpow_zero, mul_one]

variable {i : Neighbourhood} {m : ℕ} {k : ℤ} {d : ℕ}

/-- The ends of a neighbourhood and a decimal in the same units. -/
theorem units_eq (around : i.Surrounds m) (k : ℤ) : ∃ unit : ℚ, 0 < unit ∧
    2 * ((inUnits i.low i.den k).1 : ℚ) = (line (m - 1) + line m) * unit ∧
    2 * ((inUnits i.value i.den k).1 : ℚ) = 2 * line m * unit ∧
    2 * ((inUnits i.high i.den k).1 : ℚ) = (line m + line (m + 1)) * unit ∧
    ∀ num d : ℕ, 2 * ((d * (inUnits num i.den k).2 : ℕ) : ℚ) = 2 * (d * 10 ^ k) * unit := by
  have den : (0 : ℚ) < i.den := by exact_mod_cast around.den
  refine ⟨i.den * unitScale k, mul_pos den (unitScale_pos k), ?_, ?_, ?_, fun num d => ?_⟩
  · rw [inUnits_fst]
    linear_combination unitScale k * around.low
  · rw [inUnits_fst]
    linear_combination 2 * unitScale k * around.value
  · rw [inUnits_fst]
    linear_combination unitScale k * around.high
  · rw [Nat.cast_mul, inUnits_snd]
    ring

theorem le_iff_of_units {a b : ℕ} {q r unit : ℚ} (positive : 0 < unit) (left : 2 * (a : ℚ) = q * unit)
    (right : 2 * (b : ℚ) = r * unit) : a ≤ b ↔ q ≤ r := by
  rw [← mul_le_mul_iff_left₀ positive, ← left, ← right, mul_le_mul_iff_right₀ two_pos, Nat.cast_le]

/-- The search tells of a decimal whether it is near the number. -/
theorem holds_iff (around : i.Surrounds m) : i.holds k d = true ↔ Near (d * 10 ^ k) m := by
  obtain ⟨unit, positive, low, -, high, decimal⟩ := units_eq around k
  have above := le_iff_of_units positive low (decimal i.low d)
  have below := le_iff_of_units positive (decimal i.low d) high
  have above' := le_iff_of_units positive (decimal i.low d) low
  have below' := le_iff_of_units positive high (decimal i.low d)
  have unfolded : i.holds k d =
      if i.closed then decide ((inUnits i.low i.den k).1 ≤ d * (inUnits i.low i.den k).2) &&
        decide (d * (inUnits i.low i.den k).2 ≤ (inUnits i.high i.den k).1)
      else decide ((inUnits i.low i.den k).1 < d * (inUnits i.low i.den k).2) &&
        decide (d * (inUnits i.low i.den k).2 < (inUnits i.high i.den k).1) := rfl
  have even := around.closed
  rw [unfolded]
  cases closed : i.closed with
  | true =>
    rw [if_pos rfl, Bool.and_eq_true, decide_eq_true_iff, decide_eq_true_iff, above, below]
    refine ⟨fun ⟨left, right⟩ => ⟨left, right, fun _ => ?_⟩, fun near => ⟨near.above, near.below⟩⟩
    exact_mod_cast even.mp closed
  | false =>
    rw [if_neg Bool.false_ne_true, Bool.and_eq_true, decide_eq_true_iff, decide_eq_true_iff, ← not_le, ← not_le,
      above', below', not_le, not_le]
    rw [closed] at even
    constructor
    · rintro ⟨left, right⟩
      exact .of_lt left right
    · intro near
      have odd : ¬ ((m : ℤ) % 2 = 0) := fun zero => Bool.false_ne_true (even.mpr (by omega))
      exact ⟨lt_of_le_of_ne near.above fun half => odd (near.even (.inl half)),
        lt_of_le_of_ne near.below fun half => odd (near.even (.inr half))⟩

theorem onGrid?_eq (i : Neighbourhood) (k : ℤ) : i.onGrid? k =
    let below := (inUnits i.value i.den k).1 / (inUnits i.value i.den k).2
    if i.holds k below && i.holds k (below + 1) then
      some (if 2 * ((inUnits i.value i.den k).1 % (inUnits i.value i.den k).2) < (inUnits i.value i.den k).2 then below
        else below + 1)
    else if i.holds k below then some below
    else if i.holds k (below + 1) then some (below + 1)
    else none := rfl

theorem near_of_onGrid? (around : i.Surrounds m) (found : i.onGrid? k = some d) : Near (d * 10 ^ k) m := by
  rw [onGrid?_eq] at found
  dsimp only at found
  refine (holds_iff around).mp ?_
  split at found
  · next both =>
    obtain ⟨low, high⟩ := Bool.and_eq_true_iff.mp both
    cases found
    split
    · exact low
    · exact high
  · split at found
    · next low =>
      cases found
      exact low
    · split at found
      · next high =>
        cases found
        exact high
      · cases found

theorem inUnits_snd_pos (around : i.Surrounds m) (num : ℕ) (k : ℤ) : 0 < (inUnits num i.den k).2 := by
  have den : (0 : ℚ) < i.den := by exact_mod_cast around.den
  have unit := unitScale_pos k
  have positive : (0 : ℚ) < ((inUnits num i.den k).2 : ℕ) := by
    rw [inUnits_snd]
    positivity
  exact_mod_cast positive

/-- One of the multiples beside a number is near it, if they are close enough together. -/
theorem exists_onGrid? (around : i.Surrounds m) (close : 2 * (10 : ℚ) ^ k < line (m + 1) - line (m - 1)) :
    ∃ d, i.onGrid? k = some d := by
  obtain ⟨unit, positive, -, value, -, decimal⟩ := units_eq around k
  have cell := inUnits_snd_pos around i.value k
  rw [onGrid?_eq]
  dsimp only
  generalize quotient : (inUnits i.value i.den k).1 / (inUnits i.value i.den k).2 = below
  -- The number stands between the two multiples.
  have left : 2 * (below * (10 : ℚ) ^ k) ≤ 2 * line m :=
    (le_iff_of_units positive (decimal i.value below) value).mp (quotient ▸ Nat.div_mul_le_self _ _)
  have right : 2 * line m < 2 * ((below + 1 : ℕ) * (10 : ℚ) ^ k) := by
    rw [← not_le, ← le_iff_of_units positive (decimal i.value (below + 1)) value, not_le]
    exact quotient ▸ Nat.lt_mul_of_div_lt (Nat.lt_succ_self _) cell
  have before : line (m - 1) < line m := line_strictMono (by omega)
  have after : line m < line (m + 1) := line_strictMono (by omega)
  by_cases low : i.holds k below = true
  · simp only [low, Bool.true_and, if_true]
    split <;> exact ⟨_, rfl⟩
  · by_cases high : i.holds k (below + 1) = true
    · exact ⟨below + 1, by simp [low, high]⟩
    · rw [holds_iff around] at low high
      have far : 2 * (below * (10 : ℚ) ^ k) ≤ line (m - 1) + line m :=
        le_of_not_gt fun above => low (.of_lt above (by linarith))
      have far' : line m + line (m + 1) ≤ 2 * ((below + 1 : ℕ) * (10 : ℚ) ^ k) :=
        le_of_not_gt fun below => high (.of_lt (by linarith) below)
      push_cast at far'
      exact absurd close (not_lt.mpr (by linarith))

theorem onGrid?_of_eq (around : i.Surrounds m) (same : line m = d * 10 ^ k) : i.onGrid? k = some d := by
  obtain ⟨unit, positive, -, value, -, decimal⟩ := units_eq around k
  have cell := inUnits_snd_pos around i.value k
  have whole : (inUnits i.value i.den k).1 = d * (inUnits i.value i.den k).2 := by
    have equal : 2 * (((inUnits i.value i.den k).1 : ℕ) : ℚ) = 2 * ((d * (inUnits i.value i.den k).2 : ℕ) : ℚ) := by
      rw [value, decimal, same]
    exact_mod_cast mul_left_cancel₀ two_ne_zero equal
  have low : i.holds k d = true := (holds_iff around).mpr (same ▸ .refl m)
  rw [onGrid?_eq, whole, Nat.mul_div_cancel _ cell, Nat.mul_mod_left]
  simp [low, cell]

theorem lt_den_iff (around : i.Surrounds m) (k : ℤ) :
    (inUnits i.value i.den k).1 < (inUnits i.value i.den k).2 ↔ line m < 10 ^ k := by
  obtain ⟨unit, positive, -, value, -, decimal⟩ := units_eq around k
  have one := decimal i.value 1
  rw [one_mul, Nat.cast_one, one_mul] at one
  rw [← not_le, le_iff_of_units positive one value, not_le, mul_lt_mul_iff_right₀ two_pos]

/-- The power before the one that is found is none too large, and the search for it ends early only at a power that
is large enough. -/
theorem ceilLog10_spec (around : i.Surrounds m) (steps : ℕ) (start : (10 : ℚ) ^ (k - 1) ≤ line m) :
    (10 : ℚ) ^ (i.ceilLog10 k steps - 1) ≤ line m ∧
      (line m < 10 ^ i.ceilLog10 k steps ∨ i.ceilLog10 k steps = k + steps) := by
  induction steps generalizing k with
  | zero => exact ⟨start, .inr (add_zero k).symm⟩
  | succ steps ih =>
    rw [ceilLog10]
    dsimp only
    split
    · next enough => exact ⟨start, .inl ((lt_den_iff around k).mp enough)⟩
    · next less =>
      rw [lt_den_iff around, not_lt] at less
      obtain ⟨below, ended⟩ := ih (k := k + 1) (by rwa [add_sub_cancel_right])
      refine ⟨below, ended.imp_right fun last => ?_⟩
      rw [last]
      push_cast
      ring

/-- The first of the grids that has a multiple near the number ends the search. -/
theorem search_spec {top : ℤ} {count steps last : ℕ} (low : count ≤ last) (high : last < count + steps)
    (found : ∃ d, i.onGrid? (top - last) = some d) :
    ∃ d first : ℕ, i.search top count steps = some (d, top - first) ∧ i.onGrid? (top - first) = some d ∧
      count ≤ first ∧ ∀ before, count ≤ before → before < first → i.onGrid? (top - before) = none := by
  induction steps generalizing count with
  | zero => omega
  | succ steps ih =>
    simp only [search]
    cases grid : i.onGrid? (top - count) with
    | some d => exact ⟨d, count, rfl, grid, le_refl _, fun before low less => by omega⟩
    | none =>
      have later : count ≠ last := by
        rintro rfl
        obtain ⟨d, some⟩ := found
        rw [grid] at some
        cases some
      have later : count + 1 ≤ last := by omega
      obtain ⟨d, first, searched, there, above, others⟩ := ih later (by omega)
      refine ⟨d, first, searched, there, by omega, fun before low less => ?_⟩
      rcases Nat.eq_or_lt_of_le low with rfl | lower
      · exact grid
      · exact others before lower less

end Neighbourhood

/-! Seventeen digits. -/

/-- A number has less than 53 binary digits, so that it is not large beside its distance from others. -/
theorem line_lt_width {m : ℕ} (positive : 0 < m) :
    line m < fractionCount * (line (m + 1) - line (m - 1)) := by
  have step := gap_pos m
  have count : ((fractionCount : ℕ) : ℚ) = 4503599627370496 := by rw [fractionCount_eq]; norm_num
  have less : m % fractionCount + 1 ≤ fractionCount := by
    rw [fractionCount_eq]
    omega
  have less' : ((m % fractionCount : ℕ) : ℚ) + 1 ≤ (fractionCount : ℕ) := by exact_mod_cast less
  rw [line_succ, line_pred positive, gap_pred positive, line_natCast, size]
  split
  · next low =>
    rw [if_neg (by omega), count]
    rw [count] at less'
    nlinarith
  · next normal =>
    rw [Nat.cast_add]
    split
    · next narrow =>
      rw [narrow.1, Nat.cast_zero, add_zero, count]
      nlinarith
    · rw [count] at less' ⊢
      nlinarith

theorem seventeen_digits {m : ℕ} {top : ℤ} (positive : 0 < m) (below : (10 : ℚ) ^ (top - 1) ≤ line m) :
    2 * (10 : ℚ) ^ (top - 17) < line (m + 1) - line (m - 1) := by
  have width := line_lt_width positive
  have count : ((fractionCount : ℕ) : ℚ) = 4503599627370496 := by rw [fractionCount_eq]; norm_num
  have power : (10 : ℚ) ^ (top - 1) = 10 ^ (top - 17) * 10000000000000000 := by
    rw [show top - 1 = top - 17 + 16 by ring, zpow_add₀ (by norm_num)]
    norm_num
  have unit : (0 : ℚ) < 10 ^ (top - 17) := by positivity
  rw [count] at width
  rw [power] at below
  linarith

/-! The first guess. -/

/-- A power of ten is none too large if that can be seen from powers of two and of ten that are close together. -/
theorem ten_zpow_le {r s : ℕ} {g t : ℤ} (close : ((10 : ℚ) ^ r) ^ t ≤ (2 ^ s) ^ t) (some : s ≠ 0)
    (less : s * g ≤ r * t) : (10 : ℚ) ^ g ≤ 2 ^ t := by
  rw [← pow_le_pow_iff_left₀ (by positivity) (by positivity) some]
  calc ((10 : ℚ) ^ g) ^ s = 10 ^ (s * g) := by rw [← zpow_natCast, ← zpow_mul, mul_comm]
    _ ≤ 10 ^ (r * t) := zpow_le_zpow_right₀ (by norm_num) less
    _ = (10 ^ r) ^ t := by rw [zpow_mul, zpow_natCast]
    _ ≤ (2 ^ s) ^ t := close
    _ = (2 ^ t) ^ s := by rw [← zpow_natCast, ← zpow_natCast, ← zpow_mul, ← zpow_mul, mul_comm]

/-- The logarithm of two is a little less than the multiple that is taken for it. -/
theorem ten_zpow_guess_le {t : ℤ} (low : -1074 ≤ t) (high : t ≤ 1023) :
    (10 : ℚ) ^ ((t * 30103).fdiv 100000 - 1 - 1) ≤ 2 ^ t := by
  rw [Int.fdiv_eq_ediv_of_nonneg _ (by norm_num)]
  rcases Int.lt_or_le t 0 with negative | positive
  · refine ten_zpow_le (r := 13) (s := 43) ?_ (by norm_num) (by omega)
    obtain ⟨n, rfl⟩ : ∃ n : ℕ, t = -n := ⟨(-t).toNat, by omega⟩
    rw [zpow_neg, zpow_neg, zpow_natCast, zpow_natCast]
    exact inv_anti₀ (by positivity) (pow_le_pow_left₀ (by norm_num) (by norm_num) n)
  · refine ten_zpow_le (r := 3) (s := 10) ?_ (by norm_num) (by omega)
    exact zpow_le_zpow_left₀ positive (by norm_num) (by norm_num)

theorem two_zpow_log_le {x : Binary64} (positive : 0 < x.magnitude) :
    (2 : ℚ) ^ ((x.significand.log2 : ℤ) + x.exponent) ≤ line x.magnitude := by
  have some := (significand_pos positive).ne'
  have below : ((2 ^ x.significand.log2 : ℕ) : ℚ) ≤ x.significand := by exact_mod_cast Nat.log2_self_le some
  rw [line_natCast, size_magnitude, zpow_add₀ two_ne_zero, zpow_natCast]
  push_cast at below
  gcongr

theorem lt_two_zpow_log (x : Binary64) :
    line x.magnitude < (2 : ℚ) ^ ((x.significand.log2 : ℤ) + x.exponent + 1) := by
  have above : (x.significand : ℚ) < ((2 ^ (x.significand.log2 + 1) : ℕ) : ℚ) := by
    exact_mod_cast Nat.lt_log2_self
  rw [line_natCast, size_magnitude, add_right_comm, zpow_add₀ two_ne_zero]
  push_cast at above
  exact_mod_cast mul_lt_mul_of_pos_right above (zpow_pos two_pos _)

theorem log_bounds {x : Binary64} (finite : x.isFinite = true) (positive : 0 < x.magnitude) :
    -1074 ≤ (x.significand.log2 : ℤ) + x.exponent ∧ (x.significand.log2 : ℤ) + x.exponent ≤ 1023 := by
  have field : x.exponentField < 2047 := of_decide_eq_true finite
  have less : x.significand < 2 ^ 53 := by
    rw [significand, fraction, fractionCount_eq]
    split <;> omega
  have digits := (Nat.log2_lt (significand_pos positive).ne').mpr less
  rw [exponent]
  split <;> omega

/-! The shortest decimal. -/

theorem stripZeros_spec (d : ℕ) (k : ℤ) (steps : ℕ) :
    ((stripZeros d k steps).1 : ℚ) * 10 ^ (stripZeros d k steps).2 = d * 10 ^ k ∧
      k ≤ (stripZeros d k steps).2 ∧ (k = (stripZeros d k steps).2 → (stripZeros d k steps).1 = d) := by
  induction steps generalizing d k with
  | zero => exact ⟨rfl, le_refl _, fun _ => rfl⟩
  | succ steps ih =>
    rw [stripZeros]
    split
    · next zero =>
      obtain ⟨same, up, -⟩ := ih (d / 10) (k + 1)
      refine ⟨?_, by omega, fun stuck => by omega⟩
      have whole : (d : ℚ) = 10 * (d / 10 : ℕ) := by
        exact_mod_cast (Nat.mul_div_cancel' (Nat.dvd_of_mod_eq_zero zero.2)).symm
      rw [same, zpow_add_one₀ (by norm_num)]
      linear_combination -(10 : ℚ) ^ k * whole
    · exact ⟨rfl, le_refl _, fun _ => rfl⟩

theorem lt_of_zpow_lt_zpow {b : ℚ} {k l : ℤ} (large : 1 ≤ b) (less : b ^ k < b ^ l) : k < l :=
  lt_of_not_ge fun above => not_lt.mpr (zpow_le_zpow_right₀ large above) less

/-- The first grid that is tried has no more than one digit before the number, and units if the number is no
fraction. -/
theorem ceilLog10_guess {x : Binary64} (finite : x.isFinite = true) (positive : 0 < x.magnitude) :
    let top := x.neighbourhood.ceilLog10 ((((x.significand.log2 : ℤ) + x.exponent) * 30103).fdiv 100000 - 1) 5
    (10 : ℚ) ^ (top - 1) ≤ line x.magnitude ∧ (1 ≤ line x.magnitude → 0 < top) := by
  intro top
  obtain ⟨low, high⟩ := log_bounds finite positive
  have start := (ten_zpow_guess_le low high).trans (two_zpow_log_le positive)
  obtain ⟨below, ended⟩ := ceilLog10_spec (surrounds_neighbourhood positive) 5 start
  refine ⟨below, fun one => ?_⟩
  rcases ended with enough | last
  · exact lt_of_zpow_lt_zpow (by norm_num) (show (10 : ℚ) ^ (0 : ℤ) < 10 ^ top from one.trans_lt enough)
  · have digits := lt_of_zpow_lt_zpow one_le_two
      (show (2 : ℚ) ^ (0 : ℤ) < _ from one.trans_lt (lt_two_zpow_log x))
    rw [show top = _ from last, Int.fdiv_eq_ediv_of_nonneg _ (by norm_num)]
    omega

/-- The shortest decimal of a number is near it. If the number is whole the decimal has no digits after the point,
and it is the number itself if it does not end in zeros. -/
theorem shortest_spec {x : Binary64} (finite : x.isFinite = true) (positive : 0 < x.magnitude) :
    ∃ d k, x.shortest = ⟨x.isNegative, d, k⟩ ∧ Near (d * 10 ^ k) x.magnitude ∧
      ∀ n : ℕ, line x.magnitude = n → 0 ≤ k ∧ (k = 0 → d = n) := by
  have around := surrounds_neighbourhood positive
  have zero : ¬ x.isZero = true := by
    rw [isZero, decide_eq_true_iff]
    omega
  obtain ⟨below, units⟩ := ceilLog10_guess finite positive
  rw [shortest, if_neg zero]
  dsimp only at below units ⊢
  generalize x.neighbourhood.ceilLog10 _ 5 = top at below units ⊢
  obtain ⟨d, first, searched, there, above, others⟩ := search_spec (show 1 ≤ 17 by decide) (show 17 < 1 + 17 by decide)
    (exists_onGrid? around (seventeen_digits positive below))
  obtain ⟨same, up, stuck⟩ := stripZeros_spec d (top - first) 20
  rw [searched]
  refine ⟨_, _, rfl, same ▸ near_of_onGrid? around there, fun n whole => ?_⟩
  have grid : x.neighbourhood.onGrid? 0 = some n := onGrid?_of_eq around (by rw [whole, zpow_zero, mul_one])
  have one : (1 : ℚ) ≤ line x.magnitude := by
    have above : 0 < line x.magnitude := line_pos (by omega)
    rw [whole] at above ⊢
    exact_mod_cast above
  -- The grid of the whole numbers is one of those that are tried, if none before it has been enough.
  have reached : 0 ≤ top - first := by
    by_contra negative
    have none := others top.toNat (by have := units one; omega) (by omega)
    rw [Int.toNat_of_nonneg (units one).le, sub_self, grid] at none
    cases none
  refine ⟨reached.trans up, fun last => ?_⟩
  have first_eq : top - first = 0 := by omega
  rw [first_eq, grid] at there
  rw [stuck (first_eq.trans last.symm), Option.some.inj there]

end Scaffold.Binary64
