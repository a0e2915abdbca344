import Mathlib.Data.List.TakeWhile
import Scaffold.Text.Blank
import Scaffold.Text.Word

/-! White space around texts, and between the words of a text: no character is both. -/
namespace Scaffold.Text

/-! Trimming. -/

def Blank (s : List Char) : Prop := ∀ c ∈ s, isBlank c = true

/-- A text has no white space at its ends. -/
structure IsTrimmed (s : List Char) : Prop where
  head : ∀ c, s.head? = some c → isBlank c = false
  last : ∀ c, s.getLast? = some c → isBlank c = false

theorem Blank.append {s t : List Char} (blank : Blank s) (blank' : Blank t) : Blank (s ++ t) :=
  fun c member => (List.mem_append.mp member).elim (blank c) (blank' c)

theorem trimStart_append_of_blank {blanks rest : List Char} (blank : Blank blanks)
    (stop : ∀ c, rest.head? = some c → isBlank c = false) : trimStart (blanks ++ rest) = rest := by
  rw [trimStart, List.dropWhile_append_of_pos blank]
  cases rest with
  | nil => rfl
  | cons c rest => simp [stop c rfl]

theorem takeWhile_append_of_blank {blanks rest : List Char} (blank : Blank blanks)
    (stop : ∀ c, rest.head? = some c → isBlank c = false) :
    (blanks ++ rest).takeWhile isBlank = blanks := by
  rw [List.takeWhile_append_of_pos blank]
  cases rest with
  | nil => simp
  | cons c rest => simp [stop c rfl]

theorem trimEnd_eq (s : List Char) : trimEnd s = (trimStart s.reverse).reverse := rfl

/-- White space around a text is what trimming takes away. -/
theorem trim_eq {before s after : List Char} (blank : Blank before) (blank' : Blank after)
    (trimmed : IsTrimmed s) : trim (before ++ s ++ after) = s := by
  rcases List.eq_nil_or_concat s with rfl | ⟨front, c, whole⟩
  · have all : Blank (before ++ [] ++ after) := .append (.append blank nofun) blank'
    rw [trim, trimStart, List.dropWhile_eq_nil_iff.mpr all]
    rfl
  · have start : trimStart (before ++ (s ++ after)) = s ++ after := by
      refine trimStart_append_of_blank blank fun d head => trimmed.head d ?_
      rw [whole, List.concat_eq_append] at head ⊢
      cases front <;> simpa using head
    rw [List.append_assoc, trim, start, trimEnd_eq, List.reverse_append]
    rw [trimStart_append_of_blank (fun d member => blank' d (List.mem_reverse.mp member)),
      List.reverse_reverse]
    intro d head
    exact trimmed.last d (by rwa [List.head?_reverse] at head)

theorem exists_trimStart (s : List Char) : ∃ before, Blank before ∧ s = before ++ trimStart s ∧
    ∀ c, (trimStart s).head? = some c → isBlank c = false := by
  refine ⟨s.takeWhile isBlank, fun c member => List.mem_takeWhile_imp member,
    List.takeWhile_append_dropWhile.symm, fun c head => ?_⟩
  have stopped := List.head?_dropWhile_not isBlank s
  rw [trimStart] at head
  simpa [head] using stopped

theorem exists_trim (s : List Char) : ∃ before after, Blank before ∧ Blank after ∧
    s = before ++ trim s ++ after ∧ IsTrimmed (trim s) := by
  obtain ⟨before, blank, start, head⟩ := exists_trimStart s
  obtain ⟨after, blank', stop, last⟩ := exists_trimStart (trimStart s).reverse
  have split : trimStart s = trim s ++ after.reverse := by
    rw [trim, trimEnd_eq, ← List.reverse_append, ← stop, List.reverse_reverse]
  refine ⟨before, after.reverse, blank, fun c member => blank' c (List.mem_reverse.mp member), ?_, ?_, ?_⟩
  · rw [List.append_assoc, ← split, ← start]
  · intro c front
    refine head c ?_
    rw [split]
    cases shape : trim s with
    | nil => rw [shape] at front; cases front
    | cons d more => rw [shape] at front; exact front
  · intro c back
    refine last c ?_
    rwa [trim, trimEnd_eq, List.getLast?_reverse] at back

theorem isTrimmed_trim (s : List Char) : IsTrimmed (trim s) := by
  obtain ⟨-, -, -, -, -, trimmed⟩ := exists_trim s
  exact trimmed

theorem trim_of_isTrimmed {s : List Char} (trimmed : IsTrimmed s) : trim s = s := by
  have nothing : Blank [] := nofun
  simpa using trim_eq nothing nothing trimmed

/-- More white space around a text makes no difference. -/
theorem trim_append {before after : List Char} (s : List Char) (blank : Blank before)
    (blank' : Blank after) : trim (before ++ s ++ after) = trim s := by
  obtain ⟨more, more', wide, wide', whole, trimmed⟩ := exists_trim s
  have longer : before ++ s ++ after = (before ++ more) ++ trim s ++ (more' ++ after) := by
    rw [List.append_assoc, List.append_assoc, List.append_assoc, ← List.append_assoc _ more',
      ← List.append_assoc more, ← List.append_assoc more, ← whole]
  rw [longer]
  exact trim_eq (blank.append wide) (wide'.append blank') trimmed

/-! Words. -/

theorem Ranges.exists_of_search {bounds : Array (Nat × Nat)} {n low high : Nat}
    (found : search bounds n low high = true) : ∃ x ∈ bounds.toList, x.1 ≤ n ∧ n ≤ x.2 := by
  fun_induction search bounds n low high with
  | case1 | case5 => cases found
  | case2 low high _ mid first last here below ih => exact ih found
  | case3 low high _ mid first last here below above ih => exact ih found
  | case4 low high _ mid first last here below above =>
    exact ⟨(first, last), Array.mem_toList_iff.mpr (Array.mem_of_getElem? here), by simp only; omega⟩

theorem Ranges.exists_of_contains {r : Ranges} {n : Nat} (found : r.contains n = true) :
    ∃ x ∈ r.toList, x.1 ≤ n ∧ n ≤ x.2 :=
  exists_of_search found

/-- The ranges of white space beyond ASCII. -/
def wideBlanks : List (Nat × Nat) :=
  [(0x85, 0x85), (0xA0, 0xA0), (0x1680, 0x1680), (0x2000, 0x200A), (0x2028, 0x2029), (0x202F, 0x202F),
    (0x205F, 0x205F), (0x3000, 0x3000)]

theorem wordRanges_apart :
    wordRanges.toList.all (fun x => wideBlanks.all fun y => y.2 < x.1 || x.2 < y.1) = true := by
  -- The table is read much faster once its text is a list.
  rw [wordRanges, Ranges.ofTable, Ranges.numbers, String.toList_ofList]
  decide +kernel

theorem isWord_of_isBlank {c : Char} (blank : isBlank c = true) : isWord c = false := by
  simp only [isBlank, Bool.or_eq_true, Bool.and_eq_true, decide_eq_true_eq, beq_iff_eq] at blank
  by_cases narrow : c.toNat < 128
  · have ascii : ∀ n < 33, isWord (Char.ofNat n) = false := by decide +kernel
    rw [← Char.ofNat_toNat c]
    exact ascii c.toNat (by omega)
  · rw [isWord, if_neg narrow, Bool.eq_false_iff]
    intro found
    obtain ⟨x, member, low, high⟩ := Ranges.exists_of_contains found
    have apart := List.all_eq_true.mp wordRanges_apart x member
    simp only [wideBlanks, List.all_cons, List.all_nil, Bool.and_true, Bool.and_eq_true,
      Bool.or_eq_true, decide_eq_true_eq] at apart
    omega

end Scaffold.Text
