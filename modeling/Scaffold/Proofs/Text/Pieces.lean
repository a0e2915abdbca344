import Scaffold.Text.Search

/-! Texts cut at a character. What is put together with the character between the pieces is cut into the same
pieces again, unless there are none or the character is in one of them. -/
namespace Scaffold.Text

theorem pieces_ne_nil (c : Char) (s : List Char) : pieces c s ≠ [] := by
  cases s with
  | nil => simp [pieces]
  | cons a s =>
    rw [pieces]
    split
    · simp
    · split <;> simp

theorem pieces_cons_self (c : Char) (s : List Char) : pieces c (c :: s) = [] :: pieces c s := by
  rw [pieces]
  split
  · next nothing => exact absurd nothing (pieces_ne_nil c s)
  · next cut => rw [if_pos rfl, cut]

theorem pieces_append (c : Char) (s t : List Char) :
    pieces c (s ++ c :: t) = pieces c s ++ pieces c t := by
  induction s with
  | nil => rw [List.nil_append, pieces_cons_self]; rfl
  | cons a s ih =>
    rw [List.cons_append, pieces, ih, pieces]
    cases cut : pieces c s with
    | nil => exact absurd cut (pieces_ne_nil c s)
    | cons piece more =>
      by_cases same : a = c <;> simp [same]

theorem pieces_of_notMem {c : Char} {s : List Char} (absent : c ∉ s) : pieces c s = [s] := by
  induction s with
  | nil => rfl
  | cons a s ih =>
    rw [List.mem_cons, not_or] at absent
    rw [pieces, ih absent.2]
    exact if_neg (Ne.symm absent.1)

theorem notMem_of_mem_pieces {c : Char} {s piece : List Char} (member : piece ∈ pieces c s) : c ∉ piece := by
  induction s generalizing piece with
  | nil =>
    rw [pieces, List.mem_singleton] at member
    exact member ▸ List.not_mem_nil
  | cons a s ih =>
    cases cut : pieces c s with
    | nil => exact absurd cut (pieces_ne_nil c s)
    | cons first more =>
      have rest : ∀ x ∈ first :: more, c ∉ x := fun x inside => ih (cut ▸ inside)
      obtain ⟨free, others⟩ := List.forall_mem_cons.mp rest
      rw [pieces, cut] at member
      dsimp only at member
      split at member
      · rcases List.mem_cons.mp member with rfl | member
        · exact List.not_mem_nil
        · exact rest piece member
      · next different =>
        rcases List.mem_cons.mp member with rfl | member
        · exact List.not_mem_cons_of_ne_of_not_mem (Ne.symm different) free
        · exact others piece member

theorem intercalate_pieces (c : Char) (s : List Char) : [c].intercalate (pieces c s) = s := by
  induction s with
  | nil => rfl
  | cons a s ih =>
    rw [pieces]
    cases cut : pieces c s with
    | nil => exact absurd cut (pieces_ne_nil c s)
    | cons piece more =>
      rw [cut] at ih
      dsimp only
      by_cases same : a = c
      · rw [if_pos same, List.intercalate_cons_cons, ih, same]
        rfl
      · rw [if_neg same]
        cases more with
        | nil => rw [List.intercalate_singleton] at ih ⊢; rw [ih]
        | cons other more => rw [List.intercalate_cons_cons] at ih ⊢; rw [← ih]; rfl

theorem pieces_intercalate {c : Char} {ss : List (List Char)} (filled : ss ≠ [])
    (free : ∀ s ∈ ss, c ∉ s) : pieces c ([c].intercalate ss) = ss := by
  induction ss with
  | nil => exact absurd rfl filled
  | cons s ss ih =>
    obtain ⟨first, others⟩ := List.forall_mem_cons.mp free
    cases ss with
    | nil => rw [List.intercalate_singleton, pieces_of_notMem first]
    | cons t ss =>
      rw [List.intercalate_cons_cons, List.append_assoc, List.singleton_append, pieces_append,
        pieces_of_notMem first, ih (List.cons_ne_nil t ss) others]
      rfl

end Scaffold.Text
