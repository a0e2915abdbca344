import Mathlib.Algebra.Order.Field.Rat
import Mathlib.Data.List.TakeWhile
import Mathlib.Tactic.FieldSimp
import Mathlib.Tactic.Ring
import Scaffold.Number.Decimal

/-! Plain numerals: a sign, digits, and further digits after a point. Plain decimals are written as such numerals,
and from its text a numeral is read back as it has been written. -/
namespace Scaffold

/-- A numeral without an exponent. -/
structure Numeral where
  negative : Bool
  whole : List Char
  /-- If there are no digits after the point there is no point. -/
  part : List Char
  filled : whole ≠ []
  digits : ∀ c ∈ whole ++ part, c.isDigit = true

namespace Decimal

/-- What a decimal denotes. -/
def toRat (d : Decimal) : ℚ := (if d.negative then -1 else 1) * d.digits * 10 ^ d.exponent

theorem digitsValue_toDigits (n : ℕ) : digitsValue (Nat.toDigits 10 n) = n :=
  Nat.ofDigitChars_toDigits (by decide) (by decide)

theorem digitsValue_append_zeros (ds : List Char) (k : ℕ) :
    digitsValue (ds ++ List.replicate k '0') = digitsValue ds * 10 ^ k := by
  rw [mul_comm]
  exact Nat.ofDigitChars_append 0 |>.trans Nat.ofDigitChars_replicate_zero

theorem digitsValue_zeros_append (ds : List Char) (k : ℕ) :
    digitsValue (List.replicate k '0' ++ ds) = digitsValue ds := by
  have zeros : Nat.ofDigitChars 10 (List.replicate k '0') 0 = 0 :=
    Nat.ofDigitChars_replicate_zero.trans (Nat.mul_zero _)
  exact Nat.ofDigitChars_append 0 |>.trans (congrArg _ zeros)

theorem isDigit_of_mem_toDigits {n : ℕ} {c : Char} (mem : c ∈ Nat.toDigits 10 n) : c.isDigit = true :=
  Nat.isDigit_of_mem_toDigits (by decide) (by decide) mem

end Decimal

namespace Numeral

open Decimal

def body (n : Numeral) : List Char := n.whole ++ if n.part = [] then [] else '.' :: n.part

def source (n : Numeral) : String := String.ofList (if n.negative then '-' :: n.body else n.body)

/-- A numeral as the digits before and after the point together, with the place of the point. -/
def decimal (n : Numeral) : Decimal := ⟨n.negative, digitsValue (n.whole ++ n.part), -n.part.length⟩

def toRat (n : Numeral) : ℚ :=
  (if n.negative then -1 else 1) * (digitsValue (n.whole ++ n.part) / 10 ^ n.part.length)

theorem toRat_decimal (n : Numeral) : n.decimal.toRat = n.toRat := by
  rw [Decimal.toRat, toRat, decimal, zpow_neg, zpow_natCast]
  ring

/-! Reading. -/

theorem readSign_digit {c : Char} (digit : c.isDigit = true) (cs : List Char) :
    readSign (c :: cs) = (false, c :: cs) := by
  unfold readSign
  split
  · next same =>
    cases same
    cases digit
  · next same =>
    cases same
    cases digit
  · rfl

theorem readSign_source (n : Numeral) : readSign n.source.toList = (n.negative, n.body) := by
  rw [source, String.toList_ofList]
  obtain ⟨negative, whole, part, filled, digits⟩ := n
  obtain ⟨c, cs, rfl⟩ := List.exists_cons_of_ne_nil filled
  cases negative with
  | true => rfl
  | false => exact readSign_digit (digits c (by simp)) _

theorem takeWhile_body (n : Numeral) : n.body.takeWhile Char.isDigit = n.whole ∧
    n.body.dropWhile Char.isDigit = if n.part = [] then [] else '.' :: n.part := by
  have digits : ∀ c ∈ n.whole, c.isDigit = true := fun c mem => n.digits c (List.mem_append_left _ mem)
  rw [body, List.takeWhile_append_of_pos digits, List.dropWhile_append_of_pos digits]
  split <;> simp

theorem read?_source (n : Numeral) : read? n.source.toList = some n.decimal := by
  have digits : ∀ c ∈ n.part, c.isDigit = true := fun c mem => n.digits c (List.mem_append_right _ mem)
  have filled : n.whole.isEmpty = false := by simp [n.filled]
  rw [read?, readSign_source]
  dsimp only
  rw [(takeWhile_body n).1, (takeWhile_body n).2, filled]
  by_cases bare : n.part = []
  · simp [bare, readExponent?, decimal]
  · rw [if_neg bare]
    simp only
    rw [List.takeWhile_eq_self_iff.mpr digits, List.dropWhile_eq_nil_iff.mpr digits]
    simp [readExponent?, decimal]

/-- A numeral has one text, and no other numeral has the same. -/
theorem source_injective : Function.Injective source := by
  intro n n' same
  have read := readSign_source n
  rw [same, readSign_source] at read
  obtain ⟨sign, body⟩ := Prod.mk.inj read
  have whole : n.whole = n'.whole := by rw [← (takeWhile_body n).1, ← body, (takeWhile_body n').1]
  have tail := (takeWhile_body n).2
  rw [← body, (takeWhile_body n').2] at tail
  have part : n.part = n'.part := by
    by_cases bare : n.part = [] <;> by_cases bare' : n'.part = [] <;> simp_all
  obtain ⟨negative, whole', part', filled, digits⟩ := n
  dsimp only at sign whole part
  subst sign whole part
  rfl

theorem mem_source {n : Numeral} {c : Char} (mem : c ∈ n.source.toList) : c = '-' ∨ c = '.' ∨ c.isDigit = true := by
  have body : ∀ c ∈ n.body, c = '.' ∨ c.isDigit = true := by
    intro c mem
    rcases List.mem_append.mp mem with whole | tail
    · exact .inr (n.digits c (List.mem_append_left _ whole))
    · split at tail
      · cases tail
      · exact (List.mem_cons.mp tail).imp_right fun part => n.digits c (List.mem_append_right _ part)
  rw [source, String.toList_ofList] at mem
  split at mem
  · exact (List.mem_cons.mp mem).imp_right (body c)
  · exact .inr (body c mem)

theorem point_mem_source (n : Numeral) : '.' ∈ n.source.toList ↔ n.part ≠ [] := by
  have whole : '.' ∉ n.whole := fun mem => absurd (n.digits _ (List.mem_append_left _ mem)) (by decide)
  have body : '.' ∈ n.body ↔ n.part ≠ [] := by
    rw [body, List.mem_append, or_iff_right whole]
    split <;> simp [*]
  rw [source, String.toList_ofList]
  split
  · rw [List.mem_cons, or_iff_right (by decide), body]
  · exact body

/-! Writing. -/

def ofInt (z : ℤ) : Numeral where
  negative := z < 0
  whole := Nat.toDigits 10 z.natAbs
  part := []
  filled := Nat.toDigits_ne_nil
  digits _ mem := isDigit_of_mem_toDigits (List.append_nil _ ▸ mem)

theorem source_ofInt (z : ℤ) : (ofInt z).source = toString z := by
  have body : (ofInt z).body = Nat.toDigits 10 z.natAbs := List.append_nil _
  rw [source, body]
  cases z with
  | ofNat n =>
    rw [ofInt, if_neg (by simp)]
    rfl
  | negSucc n =>
    rw [ofInt, if_pos (by simp), ← String.toList_inj]
    simp [toString, Int.repr, Nat.repr]

theorem toRat_ofInt (z : ℤ) : (ofInt z).toRat = z := by
  have value : digitsValue ((ofInt z).whole ++ (ofInt z).part) = z.natAbs :=
    (congrArg _ (List.append_nil _)).trans (digitsValue_toDigits _)
  rw [toRat, value]
  rcases Int.lt_or_le z 0 with negative | positive
  · rw [show (ofInt z).negative = true from decide_eq_true negative, if_pos rfl, Nat.cast_natAbs,
      abs_of_neg negative]
    simp [ofInt]
  · rw [show (ofInt z).negative = false from decide_eq_false (by omega), if_neg Bool.false_ne_true,
      Nat.cast_natAbs, abs_of_nonneg positive]
    simp [ofInt]

end Numeral

namespace Decimal

theorem isDigit_of_mem_zeros {k : ℕ} {c : Char} (mem : c ∈ List.replicate k '0') : c.isDigit = true := by
  rw [List.eq_of_mem_replicate mem]
  rfl

theorem length_toDigits_pos (n : ℕ) : 0 < (Nat.toDigits 10 n).length := List.length_pos_of_ne_nil Nat.toDigits_ne_nil

theorem exists_numeral_of_nonneg (negative : Bool) (digits k : ℕ) : ∃ n : Numeral,
    plain ⟨negative, digits, k⟩ = n.source ∧ n.toRat = toRat ⟨negative, digits, k⟩ ∧ n.part = [] := by
  refine ⟨⟨negative, Nat.toDigits 10 digits ++ List.replicate k '0', [], by simp [Nat.toDigits_ne_nil], ?_⟩,
    ?_, ?_, rfl⟩
  · rw [List.append_nil]
    intro c mem
    rcases List.mem_append.mp mem with digit | zero
    · exact isDigit_of_mem_toDigits digit
    · exact isDigit_of_mem_zeros zero
  · simp [plain, Numeral.source, Numeral.body]
  · simp only [Numeral.toRat, toRat, List.append_nil, digitsValue_append_zeros, digitsValue_toDigits]
    simp

theorem exists_numeral_of_lt (negative : Bool) {digits k : ℕ} (some : 0 < k)
    (inside : k < (Nat.toDigits 10 digits).length) : ∃ n : Numeral,
    plain ⟨negative, digits, -k⟩ = n.source ∧ n.toRat = toRat ⟨negative, digits, -k⟩ := by
  have down : ¬ 0 ≤ -(k : ℤ) := by omega
  -- The point stands among the digits.
  refine ⟨⟨negative, (Nat.toDigits 10 digits).take ((Nat.toDigits 10 digits).length - k),
    (Nat.toDigits 10 digits).drop ((Nat.toDigits 10 digits).length - k), ?_, ?_⟩, ?_, ?_⟩
  · rw [← List.length_pos_iff, List.length_take]
    omega
  · rw [List.take_append_drop]
    exact fun c => isDigit_of_mem_toDigits
  · have part : (Nat.toDigits 10 digits).drop ((Nat.toDigits 10 digits).length - k) ≠ [] := by
      rw [← List.length_pos_iff, List.length_drop]
      omega
    simp only [plain, Numeral.source, Numeral.body, if_neg down, neg_neg, Int.toNat_natCast, if_pos inside,
      if_neg part]
  · simp only [Numeral.toRat, toRat, List.take_append_drop, digitsValue_toDigits, List.length_drop]
    rw [Nat.sub_sub_self inside.le, zpow_neg, zpow_natCast]
    ring

theorem exists_numeral_of_le (negative : Bool) {digits k : ℕ} (outside : (Nat.toDigits 10 digits).length ≤ k) :
    ∃ n : Numeral, plain ⟨negative, digits, -k⟩ = n.source ∧ n.toRat = toRat ⟨negative, digits, -k⟩ := by
  have some := length_toDigits_pos digits
  have down : ¬ 0 ≤ -(k : ℤ) := by omega
  -- The point stands before the digits, with zeros between.
  refine ⟨⟨negative, ['0'], List.replicate (k - (Nat.toDigits 10 digits).length) '0' ++ Nat.toDigits 10 digits,
    List.cons_ne_nil _ _, ?_⟩, ?_, ?_⟩
  · intro c mem
    rcases List.mem_append.mp mem with lead | tail
    · rw [List.mem_singleton.mp lead]
      rfl
    · rcases List.mem_append.mp tail with zero | digit
      · exact isDigit_of_mem_zeros zero
      · exact isDigit_of_mem_toDigits digit
  · have part : List.replicate (k - (Nat.toDigits 10 digits).length) '0' ++ Nat.toDigits 10 digits ≠ [] :=
      List.append_ne_nil_of_right_ne_nil _ Nat.toDigits_ne_nil
    simp only [plain, Numeral.source, Numeral.body, if_neg down, neg_neg, Int.toNat_natCast, if_neg outside.not_gt,
      if_neg part]
    rfl
  · have value : digitsValue (['0'] ++
        (List.replicate (k - (Nat.toDigits 10 digits).length) '0' ++ Nat.toDigits 10 digits)) = digits :=
      (digitsValue_zeros_append _ 1).trans ((digitsValue_zeros_append _ _).trans (digitsValue_toDigits _))
    simp only [Numeral.toRat, toRat, value, List.length_append, List.length_replicate]
    rw [Nat.sub_add_cancel outside, zpow_neg, zpow_natCast]
    ring

/-- A decimal is written as a numeral, with a point only if it has digits after it. -/
theorem exists_numeral_plain (d : Decimal) :
    ∃ n : Numeral, d.plain = n.source ∧ n.toRat = d.toRat ∧ (0 ≤ d.exponent → n.part = []) := by
  obtain ⟨negative, digits, exponent⟩ := d
  by_cases up : 0 ≤ exponent
  · obtain ⟨k, rfl⟩ := Int.eq_ofNat_of_zero_le up
    obtain ⟨n, written, value, bare⟩ := exists_numeral_of_nonneg negative digits k
    exact ⟨n, written, value, fun _ => bare⟩
  · obtain ⟨k, rfl, some⟩ : ∃ k : ℕ, exponent = -k ∧ 0 < k := ⟨(-exponent).toNat, by omega, by omega⟩
    have point : ∃ n : Numeral, plain ⟨negative, digits, -k⟩ = n.source ∧ n.toRat = toRat ⟨negative, digits, -k⟩ := by
      rcases Nat.lt_or_ge k (Nat.toDigits 10 digits).length with inside | outside
      · exact exists_numeral_of_lt negative some inside
      · exact exists_numeral_of_le negative outside
    obtain ⟨n, written, value⟩ := point
    exact ⟨n, written, value, fun up' => absurd up' up⟩

theorem toDigits_append_zeros {d : ℕ} (positive : 0 < d) (k : ℕ) :
    Nat.toDigits 10 d ++ List.replicate k '0' = Nat.toDigits 10 (d * 10 ^ k) := by
  induction k with
  | zero => simp
  | succ k ih =>
    rw [List.replicate_succ', ← List.append_assoc, ih, pow_succ, ← mul_assoc, mul_comm _ 10]
    exact Nat.toDigits_append_toDigits (b := 10) (d := 0) (by decide) (Nat.mul_pos positive (Nat.pow_pos (by decide)))
      (by decide)

theorem plain_natCast (negative : Bool) {d : ℕ} (positive : 0 < d) (k : ℕ) :
    plain ⟨negative, d, k⟩ = toString (if negative then -((d * 10 ^ k : ℕ) : ℤ) else (d * 10 ^ k : ℕ)) := by
  have some : 0 < d * 10 ^ k := Nat.mul_pos positive (Nat.pow_pos (by decide))
  rw [plain, if_pos (Int.natCast_nonneg k), Int.toNat_natCast, toDigits_append_zeros positive, ← Numeral.source_ofInt,
    Numeral.source, Numeral.body]
  generalize d * 10 ^ k = n at some
  cases negative with
  | true => simp [Numeral.ofInt, some]
  | false =>
    have nonneg : ¬ (n : ℤ) < 0 := by omega
    simp [Numeral.ofInt, nonneg]

end Decimal

end Scaffold
