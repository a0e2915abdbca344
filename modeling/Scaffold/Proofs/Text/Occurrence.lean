import Mathlib.Data.List.Basic
import Scaffold.Text.Search

/-! First occurrences of a text in another one. The conditions speak of concatenations only, so that
they do not rest on the search that is compared with them. -/
namespace Scaffold.Text

/-- What stands before the first occurrence of an element. -/
theorem front_unique {α : Type} {x : α} {before after before' after' : List α}
    (same : before ++ x :: after = before' ++ x :: after') (first : x ∉ before) (first' : x ∉ before') :
    before = before' := by
  obtain ⟨more, rfl, rest⟩ | ⟨more, rfl, rest⟩ := List.append_eq_append_iff.mp same
  · cases more with
    | nil => simp
    | cons y more => simp_all
  · cases more with
    | nil => simp
    | cons y more => simp_all

theorem dropStart?_eq_some {start s rest : List Char} :
    dropStart? start s = some rest ↔ s = start ++ rest := by
  induction start generalizing s with
  | nil => simp [dropStart?, eq_comm]
  | cons a start ih =>
    cases s with
    | nil => simp [dropStart?]
    | cons b s =>
      by_cases same : a = b
      · simp [dropStart?, same, ih]
      · simp [dropStart?, same, Ne.symm same]

theorem dropStart?_eq_none {start s : List Char} :
    dropStart? start s = none ↔ ∀ rest, s ≠ start ++ rest := by
  rw [Option.eq_none_iff_forall_ne_some]
  simp only [ne_eq, dropStart?_eq_some]

/-- In `before ++ needle` the needle stands nowhere but at the end. -/
def IsFirst (needle before : List Char) : Prop :=
  ∀ p q, before ++ needle = p ++ needle ++ q → p = before

theorem isFirst_nil (needle : List Char) : IsFirst needle [] := by
  intro p q same
  have sizes := congrArg List.length same
  simp only [List.length_append, List.length_nil] at sizes
  exact List.eq_nil_of_length_eq_zero (by omega)

/-- What follows the needle does not matter for its first occurrence. -/
theorem IsFirst.le_of_occurs {needle before after p q : List Char} (first : IsFirst needle before)
    (same : before ++ needle ++ after = p ++ needle ++ q) : before.length ≤ p.length := by
  by_contra less
  have sizes := congrArg List.length same
  simp only [List.length_append] at sizes
  have inside : p ++ needle <+: before ++ needle :=
    List.prefix_of_prefix_length_le ⟨q, same.symm⟩ ⟨after, rfl⟩
      (by simp only [List.length_append]; omega)
  obtain ⟨d, split⟩ := inside
  have equal := first p d split.symm
  subst equal
  omega

theorem IsFirst.unique {needle before after before' after' : List Char}
    (first : IsFirst needle before) (first' : IsFirst needle before')
    (same : before ++ needle ++ after = before' ++ needle ++ after') :
    before = before' ∧ after = after' := by
  have size : before.length = before'.length :=
    Nat.le_antisymm (first.le_of_occurs same) (first'.le_of_occurs same.symm)
  simp only [List.append_assoc] at same
  obtain ⟨equal, rest⟩ := List.append_inj same size
  exact ⟨equal, (List.append_inj rest rfl).2⟩

/-- A first occurrence moves along when the text gets a character in front, unless that one begins
an earlier occurrence. -/
theorem IsFirst.cons {needle before : List Char} (first : IsFirst needle before) (c : Char)
    (apart : ∀ q, c :: before ++ needle ≠ needle ++ q) : IsFirst needle (c :: before) := by
  intro p q same
  cases p with
  | nil => exact absurd same (apart q)
  | cons d p =>
    simp only [List.cons_append, List.cons.injEq] at same
    obtain ⟨rfl, same⟩ := same
    rw [first p q (by simpa using same)]

theorem IsFirst.tail {needle before : List Char} {c : Char} (first : IsFirst needle (c :: before)) :
    IsFirst needle before := by
  intro p q same
  have longer := first (c :: p) q (by simpa using same)
  exact (List.cons.inj longer).2

theorem cut?_eq_some {needle s before after : List Char} :
    cut? needle s = some (before, after) ↔ s = before ++ needle ++ after ∧ IsFirst needle before := by
  induction s generalizing before with
  | nil =>
    unfold cut?
    split
    · next rest front =>
      obtain ⟨rfl, rfl⟩ := List.append_eq_nil_iff.mp (dropStart?_eq_some.mp front).symm
      simp only [Option.some.injEq, Prod.mk.injEq]
      constructor
      · rintro ⟨rfl, rfl⟩
        exact ⟨rfl, isFirst_nil _⟩
      · rintro ⟨same, -⟩
        have parts := List.append_eq_nil_iff.mp same.symm
        exact ⟨(List.append_eq_nil_iff.mp parts.1).1.symm, parts.2.symm⟩
    · next absent =>
      simp only [reduceCtorEq, false_iff, not_and]
      intro same
      have parts := List.append_eq_nil_iff.mp same.symm
      have empty := (List.append_eq_nil_iff.mp parts.1).2
      exact absurd (by simp [empty]) (dropStart?_eq_none.mp absent [])
  | cons c s ih =>
    unfold cut?
    split
    · next rest front =>
      have front := dropStart?_eq_some.mp front
      constructor
      · intro found
        simp only [Option.some.injEq, Prod.mk.injEq] at found
        obtain ⟨rfl, rfl⟩ := found
        exact ⟨by simpa using front, isFirst_nil _⟩
      · rintro ⟨same, first⟩
        obtain ⟨rfl, rfl⟩ := (isFirst_nil needle).unique first (by simpa using front.symm.trans same)
        rfl
    · next absent =>
      have absent := dropStart?_eq_none.mp absent
      simp only [Option.map_eq_some_iff, Prod.mk.injEq, Prod.exists]
      constructor
      · rintro ⟨b, a, found, rfl, rfl⟩
        obtain ⟨rfl, first⟩ := ih.mp found
        refine ⟨rfl, first.cons c ?_⟩
        intro q same
        exact absent (q ++ a) (by simpa using congrArg (· ++ a) same)
      · rintro ⟨same, first⟩
        cases before with
        | nil => exact absurd (by simpa using same) (absent after)
        | cons d before =>
          simp only [List.cons_append, List.cons.injEq] at same
          obtain ⟨rfl, same⟩ := same
          exact ⟨before, after, ih.mpr ⟨by simpa using same, first.tail⟩, rfl, rfl⟩

theorem cut?_eq_none {needle s : List Char} :
    cut? needle s = none ↔ ∀ p q, s ≠ p ++ needle ++ q := by
  constructor
  · intro absent
    induction s with
    | nil =>
      unfold cut? at absent
      split at absent
      · cases absent
      · next front =>
        intro p q same
        have parts := List.append_eq_nil_iff.mp same.symm
        have empty := (List.append_eq_nil_iff.mp parts.1).2
        exact dropStart?_eq_none.mp front [] (by simp [empty])
    | cons c s ih =>
      unfold cut? at absent
      split at absent
      · cases absent
      · next front =>
        intro p q same
        cases p with
        | nil => exact dropStart?_eq_none.mp front q (by simpa using same)
        | cons d p =>
          simp only [List.cons_append, List.cons.injEq] at same
          exact ih (Option.map_eq_none_iff.mp absent) p q (by simpa using same.2)
  · intro absent
    rw [Option.eq_none_iff_forall_ne_some]
    rintro ⟨before, after⟩ found
    exact absent before after (cut?_eq_some.mp found).1

/-- A needle that stands nowhere in a text stands first behind it, unless the text ends in a part of the
needle that the needle can follow on. -/
theorem isFirst_of_absent {needle before : List Char} (absent : ¬ needle <:+: before)
    (apart : ∀ d r, needle = d ++ r → d ≠ [] → r ≠ [] → r <+: needle → ¬ d <:+ before) :
    IsFirst needle before := by
  intro p q same
  have sizes := congrArg List.length same
  simp only [List.length_append] at sizes
  have begins : p <+: before :=
    List.prefix_of_prefix_length_le ⟨needle ++ q, by rw [← List.append_assoc, same]⟩ ⟨needle, rfl⟩
      (by omega)
  obtain ⟨d, rfl⟩ := begins
  have rest : d ++ needle = needle ++ q := by simpa using same
  by_cases empty : d = []
  · simp [empty]
  by_cases long : needle.length ≤ d.length
  · obtain ⟨more, whole⟩ := List.prefix_of_prefix_length_le ⟨q, rest.symm⟩ ⟨needle, rfl⟩ long
    exact absurd ⟨p, more, by rw [List.append_assoc, whole]⟩ absent
  · obtain ⟨r, whole⟩ := List.prefix_of_prefix_length_le ⟨needle, rest⟩ ⟨q, rfl⟩ (by omega)
    have left : r ≠ [] := by
      rintro rfl
      rw [List.append_nil] at whole
      rw [whole] at long
      exact long (Nat.le_refl _)
    have again : needle = r ++ q := by
      conv_rhs at rest => rw [← whole, List.append_assoc]
      exact List.append_cancel_left rest
    exact absurd ⟨p, rfl⟩ (apart d r whole.symm empty left ⟨q, again.symm⟩)

end Scaffold.Text
