import Scaffold.Proofs.Number.Reading
import Scaffold.Proofs.Number.Shortest
import Scaffold.Proofs.Template.Agreement

/-! Texts of numbers. The small whole numbers are written by their digits and all others by their shortest decimals,
and where the two ways meet they agree: the text is a plain numeral that is rounded to the number. -/
namespace Scaffold

namespace Binary64

open Decimal

/-! Whole numbers. -/

theorem size_eq_natCast_iff (x : Binary64) (k : ℕ) :
    size x.magnitude = k ↔ x.ratio.1 % x.ratio.2 = 0 ∧ x.ratio.1 / x.ratio.2 = k := by
  obtain ⟨positive, value⟩ := ratio_spec x
  have den : (x.ratio.2 : ℚ) ≠ 0 := by exact_mod_cast positive.ne'
  have product : size x.magnitude = k ↔ x.ratio.1 = k * x.ratio.2 := by
    rw [← mul_left_inj' den, ← value]
    exact_mod_cast Iff.rfl
  rw [product]
  constructor
  · intro same
    rw [same, Nat.mul_mod_left, Nat.mul_div_cancel _ positive]
    exact ⟨rfl, rfl⟩
  · rintro ⟨whole, rfl⟩
    exact (Nat.div_mul_cancel (Nat.dvd_of_mod_eq_zero whole)).symm

theorem toRat_eq_intCast_iff {x : Binary64} {z : ℤ} :
    x.toRat = z ↔ ∃ k : ℕ, size x.magnitude = k ∧ (if x.isNegative then -(k : ℤ) else k) = z := by
  have nonneg : 0 ≤ size x.magnitude := size_zero ▸ size_strictMono.monotone (Nat.zero_le _)
  rw [toRat_eq_size]
  constructor
  · intro same
    have value : size x.magnitude = z.natAbs := by
      rw [Nat.cast_natAbs, Int.cast_abs, ← same]
      split
      · rw [abs_neg, abs_of_nonneg nonneg]
      · rw [abs_of_nonneg nonneg]
    refine ⟨z.natAbs, value, ?_⟩
    rw [value] at same
    have same : ((if x.isNegative then -(z.natAbs : ℤ) else z.natAbs : ℤ) : ℚ) = z := by
      rw [← same]
      split <;> simp
    exact_mod_cast same
  · rintro ⟨k, value, rfl⟩
    rw [value]
    split <;> simp

theorem whole?_eq_some_iff {x : Binary64} {z : ℤ} : x.whole? = some z ↔ x.isFinite = true ∧ x.toRat = z := by
  have unfolded : x.whole? = if x.isFinite && x.ratio.1 % x.ratio.2 = 0 then
      some (if x.isNegative then -((x.ratio.1 / x.ratio.2 : ℕ) : ℤ) else (x.ratio.1 / x.ratio.2 : ℕ)) else none := rfl
  simp only [toRat_eq_intCast_iff, size_eq_natCast_iff]
  rw [unfolded]
  constructor
  · intro found
    split at found
    · next whole =>
      rw [Bool.and_eq_true, decide_eq_true_iff] at whole
      exact ⟨whole.1, _, ⟨whole.2, rfl⟩, Option.some.inj found⟩
    · cases found
  · rintro ⟨finite, k, ⟨whole, rfl⟩, rfl⟩
    rw [finite, whole, Bool.true_and, if_pos (decide_eq_true rfl)]

/-! Whole numbers of 53 binary digits. -/

/-- A number of 53 binary digits is only near one whole number, itself, and the last one also to the two beside it. -/
theorem eq_of_near_whole {m n d : ℕ} (positive : 0 < m) (whole : line m = n) (small : n ≤ 2 ^ 53)
    (near : Near d m) : d = n ∨ n = 2 ^ 53 ∧ (d + 1 = n ∨ d = n + 1) := by
  obtain ⟨above, below, -⟩ := near
  have before := line_le_pred_add positive
  rw [line_succ, whole] at below
  rw [whole] at above before
  rcases gap_le_one_or m with one | ⟨two, large⟩
  · have left : 2 * d < 2 * n + 2 := by exact_mod_cast (by linarith : 2 * (d : ℚ) < 2 * n + 2)
    have right : 2 * n < 2 * d + 2 := by exact_mod_cast (by linarith : 2 * (n : ℚ) < 2 * d + 2)
    exact .inl (by omega)
  · have bound : (n : ℚ) ≤ 2 ^ 53 := by exact_mod_cast small
    have count : ((fractionCount : ℕ) : ℚ) = 2 ^ 52 := by norm_num [fractionCount_eq]
    rw [whole, count] at large
    have top : (2 : ℚ) ^ 53 ≤ n := by linarith
    have last : n = 2 ^ 53 := le_antisymm small (by exact_mod_cast top)
    have left : 2 * d ≤ 2 * n + 2 := by exact_mod_cast (by linarith : 2 * (d : ℚ) ≤ 2 * n + 2)
    have right : 2 * n ≤ 2 * d + 2 := by exact_mod_cast (by linarith : 2 * (n : ℚ) ≤ 2 * d + 2)
    omega

/-! Texts. -/

variable {x : Binary64}

theorem text_of_isFinite (finite : x.isFinite = true) : x.text = x.shortest.plain := by
  have number : ¬ x.isNaN = true := by
    rw [isFinite_iff] at finite
    rw [isNaN, decide_eq_true_iff]
    omega
  rw [text, if_neg number, finite]
  rfl

theorem shortest_zero (zero : x.isZero = true) : x.shortest = ⟨x.isNegative, 0, 0⟩ := by
  rw [shortest, if_pos zero]

theorem near_shortest (finite : x.isFinite = true) : Near x.shortest.toRat x.place ∧
    ∀ z : ℤ, x.toRat = z → 0 ≤ x.shortest.exponent := by
  rcases Nat.eq_zero_or_pos x.magnitude with zero | positive
  · rw [shortest_zero (decide_eq_true zero)]
    refine ⟨?_, fun _ _ => le_refl _⟩
    have same : Decimal.toRat ⟨x.isNegative, 0, 0⟩ = line x.place := by
      rw [← toRat_eq, toRat_of_magnitude zero]
      simp [Decimal.toRat]
    exact same ▸ .refl x.place
  · obtain ⟨d, k, same, near, whole⟩ := shortest_spec finite positive
    rw [same, Decimal.toRat, mul_assoc]
    refine ⟨near_place rfl near, fun z value => ?_⟩
    obtain ⟨n, value, -⟩ := toRat_eq_intCast_iff.mp value
    exact (whole n (line_natCast _ ▸ value)).1

theorem plain_shortest_of_whole (finite : x.isFinite = true) (positive : 0 < x.magnitude) {z : ℤ}
    (value : x.toRat = z) (small : z.natAbs ≤ 2 ^ 53) : x.shortest.plain = toString z := by
  obtain ⟨d, k, same, near, whole⟩ := shortest_spec finite positive
  obtain ⟨n, size, signed⟩ := toRat_eq_intCast_iff.mp value
  rw [← line_natCast] at size
  obtain ⟨up, units⟩ := whole n size
  obtain ⟨k, rfl⟩ := Int.eq_ofNat_of_zero_le up
  have digits : d * 10 ^ k = n := by
    have bound : n ≤ 2 ^ 53 := by
      rw [← signed] at small
      split at small <;> omega
    have near : Near ((d * 10 ^ k : ℕ) : ℚ) x.magnitude := by
      rw [zpow_natCast] at near
      exact_mod_cast near
    rcases eq_of_near_whole positive size bound near with itself | ⟨last, beside⟩
    · exact itself
    · -- Neither of the two beside the last one ends in a zero.
      cases k with
      | zero => rw [pow_zero, mul_one, units rfl]
      | succ k =>
        rw [pow_succ, ← mul_assoc, last] at beside
        omega
  have some : 0 < d := by
    have above := line_pos (Int.natCast_pos.mpr positive)
    rw [size, ← digits, Nat.cast_pos] at above
    exact Nat.pos_of_mul_pos_right above
  rw [same, Decimal.plain_natCast _ some, digits, signed]

end Binary64

namespace Value

open Binary64

variable {x y : Binary64}

theorem display_number_cases (x : Binary64) :
    (∃ z, x.whole? = some z ∧ (number x).display = toString z) ∨
      (number x).display = x.text ∧ ∀ z, x.whole? = some z → wholeLimit ≤ z.natAbs := by
  rw [display]
  cases whole : x.whole? with
  | none => exact .inr ⟨rfl, nofun⟩
  | some z =>
    by_cases small : z.natAbs < wholeLimit
    · exact .inl ⟨z, rfl, if_pos small⟩
    · exact .inr ⟨if_neg small, fun z' same => Option.some.inj same ▸ not_lt.mp small⟩

/-- The text of a number is a numeral near it, with a point only if the number is not whole. -/
theorem exists_numeral_display (finite : x.isFinite = true) :
    ∃ n : Numeral, (number x).display = n.source ∧ Near n.toRat x.place ∧
      ∀ z : ℤ, x.toRat = z → n.part = [] := by
  rcases display_number_cases x with ⟨z, whole, shown⟩ | ⟨shown, -⟩
  · refine ⟨.ofInt z, shown.trans (Numeral.source_ofInt z).symm, ?_, fun _ _ => rfl⟩
    rw [Numeral.toRat_ofInt, ← (whole?_eq_some_iff.mp whole).2, toRat_eq]
    exact .refl x.place
  · obtain ⟨near, whole⟩ := near_shortest finite
    obtain ⟨n, written, value, bare⟩ := x.shortest.exists_numeral_plain
    exact ⟨n, shown.trans ((text_of_isFinite finite).trans written), value ▸ near, fun z same => bare (whole z same)⟩

/-- Both ways of writing agree on the whole numbers of 53 binary digits. -/
theorem display_of_whole (finite : x.isFinite = true) {z : ℤ} (value : x.toRat = z) (small : z.natAbs ≤ 2 ^ 53) :
    (number x).display = toString z := by
  have whole := whole?_eq_some_iff.mpr ⟨finite, value⟩
  rcases display_number_cases x with ⟨z', whole', shown⟩ | ⟨shown, large⟩
  · rw [whole] at whole'
    rw [shown, Option.some.inj whole']
  · have some : 0 < x.magnitude := by
      refine Nat.pos_of_ne_zero fun zero => ?_
      rw [toRat_of_magnitude zero] at value
      have nothing : z = 0 := by exact_mod_cast value.symm
      exact absurd (nothing ▸ large z whole) (by decide)
    rw [shown, text_of_isFinite finite, plain_shortest_of_whole finite some value small]

theorem display_zero (zero : x.isZero = true) : (number x).display = "0" := by
  have none : x.magnitude = 0 := of_decide_eq_true zero
  have finite : x.isFinite = true := (isFinite_iff x).mpr (none ▸ by decide)
  refine display_of_whole finite (z := 0) ?_ (by decide)
  rw [toRat_of_magnitude none, Int.cast_zero]

/-- A numeral near a number is rounded to all numbers that are equal to it, and to no others. -/
theorem rounds_iff_of_near {q : ℚ} (finite : x.isFinite = true) (near : Near q x.place) :
    Rounds q y ↔ y.isFinite = true ∧ y.toRat = x.toRat := by
  have rounds := rounds_of_near finite near
  refine ⟨fun other => ⟨other.finite, other.unique rounds⟩, fun ⟨finite', same⟩ => rounds_of_near finite' ?_⟩
  rw [toRat_eq, toRat_eq] at same
  exact line_strictMono.injective same ▸ near

theorem display_eq_display_iff (finite : x.isFinite = true) (finite' : y.isFinite = true) :
    (number x).display = (number y).display ↔ x.toRat = y.toRat := by
  obtain ⟨n, shown, near, -⟩ := exists_numeral_display finite
  obtain ⟨n', shown', near', -⟩ := exists_numeral_display finite'
  constructor
  · intro same
    rw [shown, shown', Numeral.source_injective.eq_iff] at same
    exact (rounds_of_near finite near).unique (same ▸ rounds_of_near finite' near')
  · intro same
    rcases toRat_eq_toRat_iff.mp same with rfl | ⟨zero, zero'⟩
    · rfl
    · rw [display_zero zero, display_zero zero']

theorem holds_parse_numeral {vars : Variables} {name : String} (named : Condition.IsName name) {n : Numeral}
    (value : ∀ k, (Condition.equality name k).holds vars = true ↔ k = n.source) (m : Numeral) :
    (Condition.parse (name ++ " == '" ++ m.source ++ "'")).holds vars = true ↔ m = n := by
  have valid : (Condition.Form.equality name [' '] [' '] '\'' m.source).Valid := by
    refine ⟨named, ?_, ?_, .inl rfl, fun mem => ?_⟩
    · rintro c mem
      rw [List.mem_singleton.mp mem]
      decide
    · rintro c mem
      rw [List.mem_singleton.mp mem]
      decide
    · rcases Numeral.mem_source mem with same | same | digit
      · cases same
      · cases same
      · cases digit
  have written : name ++ " == '" ++ m.source ++ "'" =
      String.ofList (Condition.Form.equality name [' '] [' '] '\'' m.source).source := by
    rw [← String.toList_inj, String.toList_ofList]
    simp [Condition.Form.source]
  rw [written, Condition.parse_source valid, Condition.Form.condition, value, Numeral.source_injective.eq_iff]

/-- Finite numbers are shown faithfully. The text of a number is a numeral without an exponent; by correct rounding
it is read as the number and as nothing else, and this is how texts are read as numbers. Both zeros are shown as
zero, a whole number is shown without a point, and an integer of up to 53 binary digits, which is a number, as
itself. Therefore two numbers have one text exactly if they are equal, and exactly one literal is equal to a
variable that is a number. -/
theorem display_faithful :
    (∀ x : Binary64, x.isFinite = true → ∃ n : Numeral, (number x).display = n.source ∧
      (∀ y, Rounds n.toRat y ↔ y.isFinite = true ∧ y.toRat = x.toRat) ∧
      ∃ y, Decimal.readNumber? (number x).display = some y ∧ y.isFinite = true ∧ y.toRat = x.toRat) ∧
    (∀ x : Binary64, x.isZero = true → (number x).display = "0") ∧
    (∀ (x : Binary64) (z : ℤ), x.isFinite = true → x.toRat = z → '.' ∉ (number x).display.toList) ∧
    (∀ z : ℤ, z.natAbs ≤ 2 ^ 53 → ((ofInt z).isFinite = true ∧ (ofInt z).toRat = z) ∧
      ∀ x : Binary64, x.isFinite = true → x.toRat = z → (number x).display = toString z) ∧
    (∀ x y : Binary64, x.isFinite = true → y.isFinite = true →
      ((number x).display = (number y).display ↔ x.toRat = y.toRat)) ∧
    ∀ (vars : Variables) (name : String) (x : Binary64), x.isFinite = true → vars.get? name = some (number x) →
      ∃ n : Numeral, (∀ k, (Condition.equality name k).holds vars = true ↔ k = n.source) ∧
        (Condition.IsName name → ∀ m : Numeral,
          (Condition.parse (name ++ " == '" ++ m.source ++ "'")).holds vars = true ↔ m = n) := by
  refine ⟨fun x finite => ?_, fun x zero => display_zero zero, fun x z finite value => ?_, fun z small => ?_,
    fun x y finite finite' => display_eq_display_iff finite finite', fun vars name x finite value => ?_⟩
  · obtain ⟨n, shown, near, -⟩ := exists_numeral_display finite
    obtain ⟨y, read, rounds⟩ := Numeral.rounds_readNumber? (rounds_of_near finite near).bounded
    exact ⟨n, shown, fun y => rounds_iff_of_near finite near, y, shown ▸ read,
      (rounds_iff_of_near finite near).mp rounds⟩
  · obtain ⟨n, shown, -, bare⟩ := exists_numeral_display finite
    rw [shown, Numeral.point_mem_source, not_not]
    exact bare z value
  · exact ⟨toRat_ofInt small, fun x finite value => display_of_whole finite value small⟩
  · obtain ⟨n, shown, -⟩ := exists_numeral_display finite
    have literal : ∀ k, (Condition.equality name k).holds vars = true ↔ k = n.source := by
      intro k
      rw [Condition.holds, value, Option.any_some, decide_eq_true_iff, shown, eq_comm]
    exact ⟨n, literal, fun named => holds_parse_numeral named literal⟩

/-- On both sides of the limit, and beyond 53 binary digits. -/
example : (number ⟨0x430c6bf526340000⟩).display = "1000000000000000" ∧
    (number ⟨0x430c6bf52633fff8⟩).display = "999999999999999" ∧
    (number ⟨0x4340000000000001⟩).display = "9007199254740994" := by decide +kernel

end Value

end Scaffold
