import Scaffold.Display.Duration
import Scaffold.Proofs.Number.Arithmetic

/-! What is shown of a duration. The seconds that are shown come from a rounded number, which keeps the order of
durations and stays on its side of a second and of a minute; the tenths are rounded once more, so that the last twentieth
of a second before a minute is shown as sixty seconds. -/
namespace Scaffold

/-! Texts of durations. -/

/-- An amount of time as it is written. -/
inductive Shown where
  | milliseconds (n : ℕ)
  | tenths (n : ℕ)
  | minutes (m s : ℕ)

namespace Shown

def text : Shown → String
  | milliseconds n => s!"{n}ms"
  | tenths n => s!"{n / 10}.{n % 10}s"
  | minutes m s => s!"{m}m {s}s"

/-- The seconds that are meant. -/
def amount : Shown → ℚ
  | milliseconds n => n / 1000
  | tenths n => n / 10
  | minutes m s => 60 * m + s

/-- What one in the last place is worth. -/
def unit : Shown → ℚ
  | milliseconds _ => 1 / 1000
  | tenths _ => 1 / 10
  | minutes _ _ => 1

def first : Shown → ℕ
  | milliseconds n => n
  | tenths n => n / 10
  | minutes m _ => m

def rest : Shown → List Char
  | milliseconds _ => ['m', 's']
  | tenths n => '.' :: (Nat.toDigits 10 (n % 10) ++ ['s'])
  | minutes _ s => 'm' :: ' ' :: (Nat.toDigits 10 s ++ ['s'])

theorem toList_text (s : Shown) : s.text.toList = Nat.toDigits 10 s.first ++ s.rest := by
  cases s <;> simp [text, first, rest, toString]

theorem head_rest (s : Shown) : ∃ c cs, s.rest = c :: cs ∧ c.isDigit = false := by
  cases s <;> exact ⟨_, _, rfl, rfl⟩

theorem cut_text (s : Shown) : s.text.toList.takeWhile Char.isDigit = Nat.toDigits 10 s.first ∧
    s.text.toList.dropWhile Char.isDigit = s.rest := by
  obtain ⟨c, cs, rest, other⟩ := s.head_rest
  have digits : ∀ c ∈ Nat.toDigits 10 s.first, c.isDigit = true := fun _ mem => Decimal.isDigit_of_mem_toDigits mem
  rw [toList_text, List.takeWhile_append_of_pos digits, List.dropWhile_append_of_pos digits, rest,
    List.takeWhile_cons_of_neg (by simp [other]), List.dropWhile_cons_of_neg (by simp [other]), List.append_nil]
  exact ⟨rfl, rfl⟩

theorem toDigits_inj {m n : ℕ} (same : Nat.toDigits 10 m = Nat.toDigits 10 n) : m = n := by
  rw [← Decimal.digitsValue_toDigits m, same, Decimal.digitsValue_toDigits]

/-- A text shows one amount, in one way. -/
theorem text_injective : Function.Injective text := by
  intro s s' same
  have number : s.first = s'.first := toDigits_inj (by rw [← (cut_text s).1, same, (cut_text s').1])
  have tail : s.rest = s'.rest := by rw [← (cut_text s).2, same, (cut_text s').2]
  cases s <;> cases s' <;> simp only [first, rest, List.cons.injEq, List.append_cancel_right_eq] at number tail
  case milliseconds.milliseconds => rw [number]
  case tenths.tenths m n =>
    have last := toDigits_inj tail.2
    congr 1
    omega
  case minutes.minutes => rw [number, toDigits_inj tail.2.2]
  all_goals simp at tail

end Shown

namespace Duration

open Binary64

/-- A duration as clocks measure it: whole seconds that 64 bits hold, and less than one besides. -/
structure IsMeasured (d : Duration) : Prop where
  seconds : d.seconds < 2 ^ 64
  nanoseconds : d.nanoseconds < 1000000000

/-- The true length in seconds. -/
def length (d : Duration) : ℚ := d.seconds + d.nanoseconds / 1000000000

variable {d d' : Duration}

theorem length_lt_iff (measured : d.IsMeasured) (n : ℕ) : d.length < n ↔ d.seconds < n := by
  have part : (d.nanoseconds : ℚ) / 1000000000 < 1 :=
    (div_lt_one (by norm_num)).mpr (by exact_mod_cast measured.nanoseconds)
  have nonneg : (0 : ℚ) ≤ d.nanoseconds / 1000000000 := by positivity
  rw [length]
  constructor
  · intro less
    have : (d.seconds : ℚ) < n := by linarith
    exact_mod_cast this
  · intro less
    have : (d.seconds : ℚ) + 1 ≤ n := by exact_mod_cast less
    linarith

theorem le_length_iff (measured : d.IsMeasured) (n : ℕ) : n ≤ d.length ↔ n ≤ d.seconds := by
  rw [← not_lt, length_lt_iff measured, not_lt]

/-! The seconds as a rounded number. -/

theorem lt_overflow {q : ℚ} (small : q ≤ 2 ^ 66) : q < overflow := by
  have low : (2 : ℚ) ^ 66 ≤ 2 ^ 970 := pow_le_pow_right₀ one_le_two (by omega)
  have high : (2 : ℚ) ^ 970 * 2 < 2 ^ 1024 := by
    rw [← pow_succ]
    exact pow_lt_pow_right₀ one_lt_two (by omega)
  rw [overflow]
  generalize (2 : ℚ) ^ 1024 = top at high ⊢
  generalize (2 : ℚ) ^ 970 = step at low high ⊢
  linarith

/-- The seconds are added to the part of a second, each of which is a number already. -/
theorem rounds_inSeconds (measured : d.IsMeasured) : d.inSeconds.isNegative = false ∧
    ∃ whole part : Binary64, Rounds d.seconds whole ∧ Rounds (d.nanoseconds / 1000000000) part ∧
      Rounds (whole.toRat + part.toRat) d.inSeconds := by
  obtain ⟨seconds, nanoseconds⟩ := measured
  have large : (d.seconds : ℚ) ≤ 2 ^ 64 := by exact_mod_cast seconds.le
  have small : (d.nanoseconds : ℚ) / 1000000000 ≤ 1 :=
    (div_le_one (by norm_num)).mpr (by exact_mod_cast nanoseconds.le)
  have whole : Rounds d.seconds (ofNat d.seconds) := rounds_ofNat (lt_overflow (by linarith))
  have count := toRat_ofNat (n := d.nanoseconds) (by rw [fractionCount_eq]; omega)
  have second := toRat_ofNat (n := 1000000000) (by rw [fractionCount_eq]; omega)
  have part := rounds_div (isNegative_ofNat d.nanoseconds) (isNegative_ofNat 1000000000)
    (by rw [second]; norm_num) (lt_overflow (by rw [count, second]; push_cast; linarith))
  rw [count, second] at part
  push_cast at part
  refine ⟨isNegative_add _ _, _, _, whole, part, ?_⟩
  refine rounds_add (isNegative_ofNat d.seconds) ?_ (lt_overflow ?_)
  · rw [isNegative_div, isNegative_ofNat, isNegative_ofNat, bne_self_eq_false]
  · have first := whole.le_two_mul (Nat.cast_nonneg _)
    have last := part.le_two_mul (by positivity)
    linarith

theorem le_toRat_inSeconds (measured : d.IsMeasured) {n : ℕ} (small : n ≤ 2 * fractionCount) (le : n ≤ d.seconds) :
    n ≤ d.inSeconds.toRat := by
  obtain ⟨-, whole, part, first, last, sum⟩ := rounds_inSeconds measured
  obtain ⟨y, finite, value⟩ := exists_toRat_eq_intCast (z := n) small
  rw [Int.cast_natCast] at value
  have whole := (rounds_toRat finite).mono first (by rw [value]; exact_mod_cast le)
  have part := last.nonneg (by positivity)
  have all := (rounds_toRat finite).mono sum (by linarith)
  rwa [value] at all

/-- Up to a minute a longer duration is not rounded to fewer seconds. -/
theorem toRat_inSeconds_mono (measured : d.IsMeasured) (measured' : d'.IsMeasured) (few : d'.seconds < 60)
    (le : d.length ≤ d'.length) : d.inSeconds.toRat ≤ d'.inSeconds.toRat := by
  have seconds : d.seconds ≤ d'.seconds := (le_length_iff measured' _).mp
    (((le_length_iff measured _).mpr le_rfl).trans le)
  obtain ⟨-, whole, part, first, last, sum⟩ := rounds_inSeconds measured
  obtain ⟨-, whole', part', first', last', sum'⟩ := rounds_inSeconds measured'
  refine sum.mono sum' ?_
  rw [first.eq_of_natCast (by rw [fractionCount_eq]; omega), first'.eq_of_natCast (by rw [fractionCount_eq]; omega)]
  rcases Nat.eq_or_lt_of_le seconds with same | less
  · have nanoseconds : (d.nanoseconds : ℚ) / 1000000000 ≤ d'.nanoseconds / 1000000000 := by
      rw [length, length, same] at le
      linarith
    rw [same]
    linarith [last.mono last' nanoseconds]
  · -- No part of a second makes up for a whole one.
    have one := last.mono (rounds_ofNat (n := 1) (lt_overflow (by norm_num))) (by
      rw [Nat.cast_one, div_le_one (by norm_num)]
      exact_mod_cast measured.nanoseconds.le)
    rw [toRat_ofNat (by decide)] at one
    have nonneg := last'.nonneg (by positivity)
    have step : (d.seconds : ℚ) + 1 ≤ d'.seconds := by exact_mod_cast less
    push_cast at one
    linarith

theorem abs_length_sub_inSeconds (measured : d.IsMeasured) (few : d.seconds < 60) :
    |d.length - d.inSeconds.toRat| ≤ 1 / 32 := by
  obtain ⟨-, whole, part, first, last, sum⟩ := rounds_inSeconds measured
  have bound : (d.seconds : ℚ) + 1 ≤ 60 := by exact_mod_cast few
  have small : (d.nanoseconds : ℚ) / 1000000000 ≤ 1 :=
    (div_le_one (by norm_num)).mpr (by exact_mod_cast measured.nanoseconds.le)
  have near := abs_le.mp (last.abs_sub_le (by positivity) (by linarith))
  rw [first.eq_of_natCast (by rw [fractionCount_eq]; omega)] at sum
  have near' := abs_le.mp (sum.abs_sub_le (add_nonneg (Nat.cast_nonneg _) (last.nonneg (by positivity))) (by linarith))
  rw [length]
  exact abs_le.mpr ⟨by linarith, by linarith⟩

/-! Seconds and minutes. -/

theorem isBelow_iff {x : Binary64} (positive : x.isNegative = false) (n : ℕ) : isBelow x n = true ↔ x.toRat < n := by
  obtain ⟨den, -⟩ := ratio_spec x
  rw [isBelow, decide_eq_true_iff, toRat_eq_ratio positive, div_lt_iff₀ (by exact_mod_cast den)]
  exact_mod_cast Iff.rfl

theorem isBelow_of_le (measured : d.IsMeasured) (measured' : d'.IsMeasured) (few : d'.seconds < 60) {n : ℕ}
    (le : d.length ≤ d'.length) (below : isBelow d'.inSeconds n = true) : isBelow d.inSeconds n = true := by
  rw [isBelow_iff (rounds_inSeconds measured).1]
  exact (toRat_inSeconds_mono measured measured' few le).trans_lt
    ((isBelow_iff (rounds_inSeconds measured').1 n).mp below)

def beforeSecond (seconds : ℕ) : Duration := ⟨seconds - 1, 999999999⟩

theorem length_le_beforeSecond (measured : d.IsMeasured) {n : ℕ} (less : d.seconds < n) :
    d.length ≤ (beforeSecond n).length := by
  have whole : (d.seconds : ℚ) ≤ (n - 1 : ℕ) := by exact_mod_cast Nat.le_sub_one_of_lt less
  have part : (d.nanoseconds : ℚ) ≤ 999999999 := by exact_mod_cast Nat.le_of_lt_succ measured.nanoseconds
  rw [length, length, beforeSecond]
  push_cast
  linarith

/-- The rounded seconds are on the same side of a second and of a minute as the true ones. -/
theorem isBelow_inSeconds_iff (measured : d.IsMeasured) {n : ℕ} (side : n = 1 ∨ n = 60) :
    isBelow d.inSeconds n = true ↔ d.seconds < n := by
  constructor
  · intro below
    rw [isBelow_iff (rounds_inSeconds measured).1] at below
    by_contra reached
    refine absurd (le_toRat_inSeconds measured ?_ (not_lt.mp reached)) (not_le.mpr below)
    rw [fractionCount_eq]
    omega
  · intro less
    have last : (beforeSecond n).IsMeasured ∧ (beforeSecond n).seconds < 60 ∧
        isBelow (beforeSecond n).inSeconds n = true := by
      rcases side with rfl | rfl
      · exact ⟨⟨by decide, by decide⟩, by decide, by decide +kernel⟩
      · exact ⟨⟨by decide, by decide⟩, by decide, by decide +kernel⟩
    exact isBelow_of_le measured last.1 last.2.1 (length_le_beforeSecond measured less) last.2.2

/-! Tenths of a second. -/

def tenths (d : Duration) : ℕ := roundDiv (10 * d.inSeconds.ratio.1) d.inSeconds.ratio.2

theorem ten_mul_ratio (measured : d.IsMeasured) :
    ((10 * d.inSeconds.ratio.1 : ℕ) : ℚ) / d.inSeconds.ratio.2 = 10 * d.inSeconds.toRat := by
  rw [toRat_eq_ratio (rounds_inSeconds measured).1]
  push_cast
  ring

theorem tenths_mono (measured : d.IsMeasured) (measured' : d'.IsMeasured) (few : d'.seconds < 60)
    (le : d.length ≤ d'.length) : d.tenths ≤ d'.tenths := by
  refine roundDiv_mono (ratio_spec _).1 (ratio_spec _).1 ?_
  rw [ten_mul_ratio measured, ten_mul_ratio measured']
  linarith [toRat_inSeconds_mono measured measured' few le]

theorem abs_tenths_sub_length (measured : d.IsMeasured) (few : d.seconds < 60) :
    |(d.tenths / 10 : ℚ) - d.length| < 1 / 10 := by
  have near := abs_le.mp (abs_length_sub_inSeconds measured few)
  have half := abs_le.mp (abs_roundDiv_sub_le (10 * d.inSeconds.ratio.1) (ratio_spec d.inSeconds).1)
  rw [ten_mul_ratio measured, ← tenths] at half
  exact abs_lt.mpr ⟨by linarith, by linarith⟩

/-- From a second to a minute there are 10 to 600 tenths, and 600 in the last twentieth of a second. -/
theorem tenths_bounds (measured : d.IsMeasured) (some : 1 ≤ d.seconds) (few : d.seconds < 60) :
    10 ≤ d.tenths ∧ d.tenths ≤ 600 ∧ (d.tenths = 600 ↔ 5995 / 100 ≤ d.length) := by
  have least : IsMeasured ⟨1, 0⟩ := ⟨by decide, by decide⟩
  have last : IsMeasured (beforeSecond 60) := ⟨by decide, by decide⟩
  have before : IsMeasured ⟨59, 949999999⟩ := ⟨by decide, by decide⟩
  have half : IsMeasured ⟨59, 950000000⟩ := ⟨by decide, by decide⟩
  have long : 1 ≤ d.length := by exact_mod_cast (le_length_iff measured 1).mpr some
  have low : tenths ⟨1, 0⟩ ≤ d.tenths := tenths_mono least measured few (by norm_num [length] at long ⊢; linarith)
  have high : d.tenths ≤ tenths (beforeSecond 60) :=
    tenths_mono measured last (by decide) (length_le_beforeSecond measured few)
  have ten : tenths ⟨1, 0⟩ = 10 := by decide +kernel
  have top : tenths (beforeSecond 60) = 600 := by decide +kernel
  refine ⟨ten ▸ low, top ▸ high, fun full => ?_, fun late => ?_⟩
  · by_contra early
    -- A nanosecond before the tie there are 599 tenths.
    have nanoseconds : d.length ≤ length ⟨59, 949999999⟩ := by
      rw [not_le, length] at early
      have less : (d.seconds * 1000000000 + d.nanoseconds : ℚ) < 59950000000 := by linarith
      have less : (d.seconds * 1000000000 + d.nanoseconds : ℚ) ≤ 59949999999 := by
        exact_mod_cast Nat.le_of_lt_succ (by exact_mod_cast less)
      norm_num [length]
      linarith
    have fewer := tenths_mono measured before (by decide) nanoseconds
    rw [full, show tenths ⟨59, 949999999⟩ = 599 by decide +kernel] at fewer
    omega
  · have more := tenths_mono half measured few (by norm_num [length] at late ⊢; linarith)
    rw [show tenths ⟨59, 950000000⟩ = 600 by decide +kernel] at more
    omega

/-! What is shown. -/

def shown (d : Duration) : Shown :=
  if d.seconds < 1 then .milliseconds d.milliseconds
  else if d.seconds < 60 then .tenths d.tenths
  else .minutes (d.seconds / 60) (d.seconds % 60)

theorem text_eq (measured : d.IsMeasured) : d.text = d.shown.text := by
  have one := isBelow_inSeconds_iff measured (.inl rfl)
  have minute := isBelow_inSeconds_iff measured (.inr rfl)
  rw [text, shown]
  by_cases short : d.seconds < 1
  · rw [if_pos (one.mpr short), if_pos short]
    rfl
  · rw [if_neg (mt one.mp short), if_neg short]
    by_cases few : d.seconds < 60
    · rw [if_pos (minute.mpr few), if_pos few]
      rfl
    · rw [if_neg (mt minute.mp few), if_neg few]
      rfl

end Duration

/-- The form in which a length is to be shown: up to 999 milliseconds below a second, 10 to 599 tenths of a second below
a minute, and then minutes and less than 60 seconds. -/
def Shown.Fits : Shown → ℚ → Prop
  | milliseconds n, q => q < 1 ∧ n ≤ 999
  | tenths n, q => 1 ≤ q ∧ q < 60 ∧ 10 ≤ n ∧ n ≤ 599
  | minutes m s, q => 60 ≤ q ∧ 1 ≤ m ∧ s ≤ 59

namespace Duration

variable {d d' : Duration}

theorem shown_cases (d : Duration) :
    d.seconds = 0 ∧ d.shown = .milliseconds (d.nanoseconds / 1000000) ∨
      1 ≤ d.seconds ∧ d.seconds < 60 ∧ d.shown = .tenths d.tenths ∨
      60 ≤ d.seconds ∧ d.shown = .minutes (d.seconds / 60) (d.seconds % 60) := by
  rw [shown]
  split
  · next short =>
    obtain zero : d.seconds = 0 := by omega
    refine .inl ⟨zero, ?_⟩
    rw [milliseconds, zero, Nat.zero_mul, Nat.zero_add]
  · split
    · exact .inr (.inl ⟨by omega, by omega, rfl⟩)
    · exact .inr (.inr ⟨by omega, rfl⟩)

/-- The last twentieth of a second before a minute, and nothing else, is shown in no form that it is to have. -/
theorem fits_shown_iff (measured : d.IsMeasured) :
    d.shown.Fits d.length ↔ ¬ (5995 / 100 ≤ d.length ∧ d.length < 60) := by
  have nanoseconds := measured.nanoseconds
  rcases shown_cases d with ⟨zero, shown⟩ | ⟨some, few, shown⟩ | ⟨long, shown⟩ <;> rw [shown]
  · have short : d.length < 1 := by exact_mod_cast (length_lt_iff measured 1).mpr (by omega)
    refine iff_of_true ⟨short, by omega⟩ fun ⟨late, _⟩ => ?_
    linarith
  · have one : 1 ≤ d.length := by exact_mod_cast (le_length_iff measured 1).mpr some
    have less : d.length < 60 := by exact_mod_cast (length_lt_iff measured 60).mpr few
    obtain ⟨ten, most, full⟩ := tenths_bounds measured some few
    constructor
    · rintro ⟨-, -, -, fewer⟩ ⟨late, -⟩
      have := full.mpr late
      omega
    · intro early
      have apart : d.tenths ≠ 600 := fun same => early ⟨full.mp same, less⟩
      exact ⟨one, less, ten, by omega⟩
  · have minute : 60 ≤ d.length := by exact_mod_cast (le_length_iff measured 60).mpr long
    exact iff_of_true ⟨minute, by omega, by omega⟩ fun ⟨_, less⟩ => absurd less (not_lt.mpr minute)

theorem shown_before_minute (measured : d.IsMeasured) (late : 5995 / 100 ≤ d.length) (less : d.length < 60) :
    d.shown = .tenths 600 := by
  have few : d.seconds < 60 := (length_lt_iff measured 60).mp (by exact_mod_cast less)
  have some : 1 ≤ d.seconds := (le_length_iff measured 1).mp (by push_cast; linarith)
  rw [shown, if_neg (by omega), if_pos few, (tenths_bounds measured some few).2.2.mpr late]

theorem amount_minutes (seconds : ℕ) : (Shown.minutes (seconds / 60) (seconds % 60)).amount = seconds := by
  rw [Shown.amount]
  exact_mod_cast Nat.div_add_mod seconds 60

theorem amount_milliseconds_le (measured : d.IsMeasured) :
    (Shown.milliseconds (d.nanoseconds / 1000000)).amount ≤ 1 := by
  have nanoseconds := measured.nanoseconds
  have few : ((d.nanoseconds / 1000000 : ℕ) : ℚ) ≤ 1000 := by
    exact_mod_cast (by omega : d.nanoseconds / 1000000 ≤ 1000)
  rw [Shown.amount]
  linarith

/-- Less than one in the last place is lost or gained. -/
theorem abs_amount_sub_length (measured : d.IsMeasured) : |d.shown.amount - d.length| < d.shown.unit := by
  have part : (d.nanoseconds : ℚ) / 1000000000 < 1 :=
    (div_lt_one (by norm_num)).mpr (by exact_mod_cast measured.nanoseconds)
  rcases shown_cases d with ⟨zero, shown⟩ | ⟨some, few, shown⟩ | ⟨long, shown⟩ <;> rw [shown]
  · have whole : (1000000 * (d.nanoseconds / 1000000 : ℕ) : ℚ) ≤ d.nanoseconds := by
      exact_mod_cast Nat.mul_div_le d.nanoseconds 1000000
    have next : (d.nanoseconds : ℚ) < 1000000 * ((d.nanoseconds / 1000000 : ℕ) + 1) := by
      exact_mod_cast Nat.lt_mul_div_succ d.nanoseconds (by omega)
    rw [Shown.amount, Shown.unit, length, zero]
    push_cast at whole next ⊢
    exact abs_lt.mpr ⟨by linarith, by linarith⟩
  · exact abs_tenths_sub_length measured few
  · have nonneg : (0 : ℚ) ≤ d.nanoseconds / 1000000000 := by positivity
    rw [amount_minutes, Shown.unit, length]
    exact abs_lt.mpr ⟨by linarith, by linarith⟩

/-- A longer duration is not shown as less. -/
theorem amount_mono (measured : d.IsMeasured) (measured' : d'.IsMeasured) (le : d.length ≤ d'.length) :
    d.shown.amount ≤ d'.shown.amount := by
  have seconds : d.seconds ≤ d'.seconds := (le_length_iff measured' _).mp
    (((le_length_iff measured _).mpr le_rfl).trans le)
  rcases shown_cases d with ⟨zero, shown⟩ | ⟨some, few, shown⟩ | ⟨long, shown⟩ <;>
    rcases shown_cases d' with ⟨zero', shown'⟩ | ⟨some', few', shown'⟩ | ⟨long', shown'⟩ <;>
    rw [shown, shown']
  · have nanoseconds : d.nanoseconds ≤ d'.nanoseconds := by
      rw [length, length, zero, zero'] at le
      have : (d.nanoseconds : ℚ) ≤ d'.nanoseconds := by linarith
      exact_mod_cast this
    have fewer : ((d.nanoseconds / 1000000 : ℕ) : ℚ) ≤ (d'.nanoseconds / 1000000 : ℕ) := by
      exact_mod_cast Nat.div_le_div_right nanoseconds
    rw [Shown.amount, Shown.amount]
    linarith
  · have least : (10 : ℚ) ≤ d'.tenths := by exact_mod_cast (tenths_bounds measured' some' few').1
    refine (amount_milliseconds_le measured).trans ?_
    rw [Shown.amount]
    linarith
  · have one := amount_milliseconds_le measured
    rw [amount_minutes]
    exact one.trans (by exact_mod_cast (by omega : 1 ≤ d'.seconds))
  · omega
  · have fewer : (d.tenths : ℚ) ≤ d'.tenths := by exact_mod_cast tenths_mono measured measured' few' le
    rw [Shown.amount, Shown.amount]
    linarith
  · have last : (d.tenths : ℚ) ≤ 600 := by exact_mod_cast (tenths_bounds measured some few).2.1
    have minute : (60 : ℚ) ≤ d'.seconds := by exact_mod_cast long'
    rw [Shown.amount, amount_minutes]
    linarith
  · omega
  · omega
  · rw [amount_minutes, amount_minutes]
    exact_mod_cast seconds

/-- What is shown of a duration means one amount, which is less than one in the last place away from the true length,
and what is shown of a longer duration never means less. Its form is the one that the length is to have, except in the last
twentieth of a second before a minute: then sixty seconds are shown. -/
theorem text_of_length (d : Duration) (measured : d.IsMeasured) :
    ∃ s : Shown, d.text = s.text ∧ (∀ s' : Shown, d.text = s'.text → s' = s) ∧
      (s.Fits d.length ↔ ¬ (5995 / 100 ≤ d.length ∧ d.length < 60)) ∧
      (5995 / 100 ≤ d.length → d.length < 60 → s = .tenths 600) ∧ |s.amount - d.length| < s.unit ∧
      ∀ (d' : Duration) (s' : Shown), d'.IsMeasured → d'.text = s'.text → d.length ≤ d'.length →
        s.amount ≤ s'.amount := by
  refine ⟨d.shown, text_eq measured, fun s' same => ?_, fits_shown_iff measured, shown_before_minute measured,
    abs_amount_sub_length measured, fun d' s' measured' same le => ?_⟩
  · rw [text_eq measured] at same
    exact (Shown.text_injective same).symm
  · rw [text_eq measured'] at same
    rw [← Shown.text_injective same]
    exact amount_mono measured measured' le

/-- Ninety seconds are shown in minutes. -/
theorem text_of_length_of_minutes :
    let d : Duration := ⟨90, 0⟩
    d.IsMeasured ∧ d.text = "1m 30s" ∧ (Shown.minutes 1 30).Fits d.length ∧
      |(Shown.minutes 1 30).amount - d.length| < (Shown.minutes 1 30).unit := by
  intro d
  have measured : d.IsMeasured := ⟨by decide, by decide⟩
  have shown : d.text = (Shown.minutes 1 30).text := by decide +kernel
  have long : ¬ (5995 / 100 ≤ d.length ∧ d.length < 60) := by norm_num [length, d]
  obtain ⟨s, -, only, form, -, near, -⟩ := text_of_length d measured
  cases only _ shown
  exact ⟨measured, by decide +kernel, form.mpr long, near⟩

/-- Just before a minute sixty seconds are shown, although there are less. -/
theorem text_before_minute :
    let d : Duration := ⟨59, 960000000⟩
    d.IsMeasured ∧ 1 ≤ d.length ∧ d.length < 60 ∧ d.text = "60.0s" ∧
      ∀ s : Shown, d.text = s.text → ¬ s.Fits d.length := by
  intro d
  have shown : d.text = (Shown.tenths 600).text := by decide +kernel
  refine ⟨⟨by decide, by decide⟩, by norm_num [length, d], by norm_num [length, d], by decide +kernel, ?_⟩
  intro s same fits
  cases Shown.text_injective (same.symm.trans shown)
  exact absurd fits.2.2.2 (by decide)

end Duration

end Scaffold
