import Mathlib.Algebra.Order.Field.Power
import Mathlib.Algebra.Order.Group.Int
import Mathlib.Data.Int.ConditionallyCompleteOrder
import Mathlib.Data.Rat.Cast.Order
import Mathlib.Order.SuccPred.Basic
import Mathlib.Tactic.FieldSimp
import Mathlib.Tactic.Linarith
import Mathlib.Tactic.Positivity
import Mathlib.Tactic.Ring
import Scaffold.Number.Binary64

/-! The finite numbers of 64 bits in their order. The bits without the sign count the numbers from zero on, so
that the numbers stand on a line whose places are the integers. -/
namespace Scaffold.Binary64

/-- What a finite number denotes. -/
def toRat (x : Binary64) : ℚ :=
  (if x.isNegative then -1 else 1) * x.significand * 2 ^ x.exponent

theorem fractionCount_eq : fractionCount = 4503599627370496 := rfl
theorem signPlace_eq : signPlace = 9223372036854775808 := rfl

/-! Magnitudes. -/

/-- How far it is from one magnitude to the next. -/
def gap (m : ℕ) : ℚ := 2 ^ ((max 1 (m / fractionCount) : ℕ) - 1075 : ℤ)

/-- What the number of a magnitude denotes, as if the exponents had no end. -/
def size (m : ℕ) : ℚ :=
  (if m / fractionCount = 0 then m % fractionCount else fractionCount + m % fractionCount : ℕ) * gap m

theorem gap_pos (m : ℕ) : 0 < gap m := zpow_pos two_pos _

@[simp] theorem size_zero : size 0 = 0 := by
  simp [size]

theorem gap_of_carry {m n : ℕ} (up : n / fractionCount = m / fractionCount + 1)
    (normal : m / fractionCount ≠ 0) : gap n = 2 * gap m := by
  rw [gap, gap, up]
  generalize m / fractionCount = e at normal
  rw [show ((max 1 (e + 1) : ℕ) - 1075 : ℤ) = (max 1 e : ℕ) - 1075 + 1 by omega, zpow_add_one₀ two_ne_zero,
    mul_comm]

theorem gap_eq {m n : ℕ} (same : max 1 (n / fractionCount) = max 1 (m / fractionCount)) : gap n = gap m := by
  rw [gap, gap, same]

theorem size_succ (m : ℕ) : size (m + 1) = size m + gap m := by
  have carry : m % fractionCount + 1 = fractionCount ∨ m % fractionCount + 1 < fractionCount := by
    rw [fractionCount_eq]
    omega
  rcases carry with full | free
  · -- The fraction is full, and the exponent grows instead.
    have up : (m + 1) / fractionCount = m / fractionCount + 1 ∧ (m + 1) % fractionCount = 0 := by
      rw [fractionCount_eq] at full ⊢
      omega
    have whole : (fractionCount : ℚ) = (m % fractionCount : ℕ) + 1 := by exact_mod_cast full.symm
    rw [size, size, up.1, up.2, if_neg (Nat.succ_ne_zero _)]
    by_cases low : m / fractionCount = 0
    · rw [if_pos low, gap_eq (show max 1 ((m + 1) / fractionCount) = max 1 (m / fractionCount) by omega),
        Nat.add_zero, whole]
      ring
    · rw [if_neg low, gap_of_carry up.1 low, Nat.add_zero, Nat.cast_add, whole]
      ring
  · have stay : (m + 1) / fractionCount = m / fractionCount ∧
        (m + 1) % fractionCount = m % fractionCount + 1 := by
      rw [fractionCount_eq] at free ⊢
      omega
    rw [size, size, gap_eq (congrArg _ stay.1), stay.1, stay.2]
    split
    · push_cast
      ring
    · push_cast
      ring

theorem size_strictMono : StrictMono size := by
  refine strictMono_nat_of_lt_succ fun m => ?_
  rw [size_succ]
  exact lt_add_of_pos_right _ (gap_pos m)

/-! The line of numbers. -/

/-- What the number at a place on the line denotes. -/
def line (z : ℤ) : ℚ := if z < 0 then -size z.natAbs else size z.natAbs

/-- The place of a number on the line. Both zeros have the same. -/
def place (x : Binary64) : ℤ := if x.isNegative then -x.magnitude else x.magnitude

theorem line_natCast (m : ℕ) : line m = size m := by
  rw [line, if_neg (by omega), Int.natAbs_natCast]

theorem line_neg (z : ℤ) : line (-z) = -line z := by
  rcases lt_trichotomy z 0 with below | rfl | above
  · rw [line, line, if_pos below, if_neg (by omega), Int.natAbs_neg, neg_neg]
  · simp [line]
  · rw [line, line, if_neg (by omega : ¬ z < 0), if_pos (by omega), Int.natAbs_neg]

theorem line_strictMono : StrictMono line := by
  refine strictMono_int_of_lt_succ fun z => ?_
  rcases Int.lt_or_le z 0 with below | above
  · obtain ⟨m, rfl⟩ : ∃ m : ℕ, z = -(m + 1 : ℕ) := ⟨(-z).toNat - 1, by omega⟩
    rw [show (-((m + 1 : ℕ) : ℤ) + 1) = -(m : ℤ) by omega, line_neg, line_neg, line_natCast, line_natCast]
    exact neg_lt_neg (size_strictMono (Nat.lt_succ_self m))
  · obtain ⟨m, rfl⟩ := Int.eq_ofNat_of_zero_le above
    exact_mod_cast line_natCast m ▸ line_natCast (m + 1) ▸ size_strictMono (Nat.lt_succ_self m)

@[simp] theorem line_zero : line 0 = 0 := by
  simp [line]

theorem line_pos {z : ℤ} (positive : 0 < z) : 0 < line z := line_zero ▸ line_strictMono positive

theorem gap_magnitude (x : Binary64) : gap x.magnitude = 2 ^ x.exponent := by
  rw [gap, exponent, exponentField]
  generalize x.magnitude / fractionCount = e
  split
  · next low =>
    rw [low]
    rfl
  · next normal => rw [Nat.max_eq_right (Nat.one_le_iff_ne_zero.mpr normal)]

theorem size_magnitude (x : Binary64) : size x.magnitude = x.significand * 2 ^ x.exponent := by
  rw [size, gap_magnitude]
  rfl

theorem toRat_eq (x : Binary64) : x.toRat = line x.place := by
  rw [toRat, mul_assoc, ← size_magnitude, place]
  cases x.isNegative with
  | true => rw [if_pos rfl, if_pos rfl, line_neg, line_natCast, neg_one_mul]
  | false => rw [if_neg Bool.false_ne_true, if_neg Bool.false_ne_true, line_natCast, one_mul]

theorem toRat_eq_size (x : Binary64) : x.toRat = if x.isNegative then -size x.magnitude else size x.magnitude := by
  rw [toRat, mul_assoc, ← size_magnitude]
  split <;> simp

theorem ratio_spec (x : Binary64) : 0 < x.ratio.2 ∧ (x.ratio.1 : ℚ) = size x.magnitude * x.ratio.2 := by
  rw [size_magnitude, ratio]
  split
  · next up =>
    obtain ⟨k, same⟩ := Int.eq_ofNat_of_zero_le up
    rw [same, Int.toNat_natCast, zpow_natCast]
    exact ⟨one_pos, by simp⟩
  · obtain ⟨k, same⟩ : ∃ k : ℕ, x.exponent = -k := ⟨(-x.exponent).toNat, by omega⟩
    rw [same, neg_neg, Int.toNat_natCast, zpow_neg, zpow_natCast]
    refine ⟨by simp, ?_⟩
    simp

theorem toRat_of_magnitude {x : Binary64} (zero : x.magnitude = 0) : x.toRat = 0 := by
  rw [toRat_eq_size, zero, size_zero, neg_zero, ite_self]

theorem isFinite_iff (x : Binary64) : x.isFinite = true ↔ x.magnitude < topExponent * fractionCount := by
  rw [isFinite, decide_eq_true_iff, exponentField, Nat.div_lt_iff_lt_mul (by decide)]

theorem magnitude_ofMagnitude {m : ℕ} (negative : Bool) (small : m < signPlace) :
    (ofMagnitude negative m).magnitude = m ∧ (ofMagnitude negative m).isNegative = negative := by
  rw [signPlace_eq] at small
  have bits : (ofMagnitude negative m).bits.toNat = m + if negative then signPlace else 0 := by
    rw [ofMagnitude, UInt64.toNat_ofNat_of_lt']
    rw [signPlace_eq]
    cases negative <;> simp [UInt64.size] <;> omega
  rw [magnitude, isNegative, bits, signPlace_eq]
  cases negative <;> simp <;> omega

theorem exists_place {z : ℤ} (small : z.natAbs < topExponent * fractionCount) :
    ∃ x : Binary64, x.isFinite = true ∧ x.place = z := by
  obtain ⟨same, sign⟩ := magnitude_ofMagnitude (m := z.natAbs) (decide (z < 0))
    (small.trans_le (by decide))
  refine ⟨_, (isFinite_iff _).mpr (same ▸ small), ?_⟩
  rw [place, same, sign]
  by_cases negative : z < 0
  · rw [if_pos (decide_eq_true negative)]
    omega
  · rw [if_neg (by simpa using negative)]
    omega

theorem natAbs_place (x : Binary64) : x.place.natAbs = x.magnitude := by
  rw [place]
  split <;> omega

theorem eq_of_magnitude_eq {x y : Binary64} (same : x.magnitude = y.magnitude)
    (sign : x.isNegative = y.isNegative) : x = y := by
  obtain ⟨a⟩ := x
  obtain ⟨b⟩ := y
  have bound := a.toNat_lt
  have bound' := b.toNat_lt
  rw [magnitude, magnitude, signPlace_eq] at same
  rw [isNegative, isNegative, signPlace_eq, decide_eq_decide] at sign
  dsimp only at same sign
  have bits : a.toNat = b.toNat := by omega
  rw [UInt64.toNat_inj.mp bits]

/-- Only the sign of a zero is not denoted. -/
theorem toRat_eq_toRat_iff {x y : Binary64} :
    x.toRat = y.toRat ↔ x = y ∨ x.isZero = true ∧ y.isZero = true := by
  rw [toRat_eq, toRat_eq, line_strictMono.injective.eq_iff, isZero, isZero, decide_eq_true_iff, decide_eq_true_iff]
  constructor
  · intro same
    have magnitudes : x.magnitude = y.magnitude := by rw [← natAbs_place, same, natAbs_place]
    rw [place, place, ← magnitudes] at same
    by_cases zero : x.magnitude = 0
    · exact .inr ⟨zero, magnitudes ▸ zero⟩
    · refine .inl (eq_of_magnitude_eq magnitudes ?_)
      cases negative : x.isNegative <;> cases negative' : y.isNegative <;> simp [negative, negative'] at same ⊢ <;>
        omega
  · rintro (rfl | ⟨zero, zero'⟩)
    · rfl
    · simp [place, zero, zero']

/-! The sizes beside a number. -/

/-- Below a power of two the numbers stand twice as close. -/
theorem gap_pred {m : ℕ} (positive : 0 < m) :
    gap (m - 1) = if m % fractionCount = 0 ∧ 1 < m / fractionCount then gap m / 2 else gap m := by
  split
  · next narrow =>
    have up : m / fractionCount = (m - 1) / fractionCount + 1 ∧ (m - 1) / fractionCount ≠ 0 := by
      rw [fractionCount_eq] at narrow ⊢
      omega
    rw [gap_of_carry up.1 up.2]
    ring
  · next wide =>
    refine gap_eq ?_
    rw [fractionCount_eq] at wide ⊢
    omega

theorem line_succ (m : ℕ) : line (m + 1) = line m + gap m := by
  rw [line_natCast, ← size_succ]
  exact line_natCast (m + 1)

theorem line_pred {m : ℕ} (positive : 0 < m) : line (m - 1) = line m - gap (m - 1) := by
  obtain ⟨n, rfl⟩ := Nat.exists_eq_add_of_lt positive
  have step := line_succ n
  rw [Nat.zero_add, Nat.add_sub_cancel, Nat.cast_succ, add_sub_cancel_right]
  linarith

theorem line_le_pred_add {m : ℕ} (positive : 0 < m) : line m ≤ line (m - 1) + gap m := by
  have less : gap (m - 1) ≤ gap m := by
    have some := gap_pos m
    rw [gap_pred positive]
    split <;> linarith
  rw [line_pred positive]
  linarith

/-- Where the numbers stand more than one apart they are large. -/
theorem gap_le_one_or (m : ℕ) : gap m ≤ 1 ∨ 2 ≤ gap m ∧ fractionCount * gap m ≤ line m := by
  by_cases low : max 1 (m / fractionCount) ≤ 1075
  · exact .inl (zpow_le_one_of_nonpos₀ one_le_two (by omega))
  · refine .inr ⟨?_, ?_⟩
    · calc (2 : ℚ) = 2 ^ (1 : ℤ) := (zpow_one 2).symm
        _ ≤ gap m := zpow_le_zpow_right₀ one_le_two (by omega)
    · rw [line_natCast, size, if_neg (by omega)]
      refine mul_le_mul_of_nonneg_right ?_ (gap_pos m).le
      exact_mod_cast Nat.le_add_right _ _

end Scaffold.Binary64
