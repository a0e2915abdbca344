import Mathlib.Data.List.Basic

/-! Two sequences that come in one, each in its own order. -/
namespace Scaffold

inductive Interleaving {α : Type} : List α → List α → List α → Prop
  | nil : Interleaving [] [] []
  | left {xs ys zs : List α} (x : α) (rest : Interleaving xs ys zs) :
    Interleaving (x :: xs) ys (x :: zs)
  | right {xs ys zs : List α} (y : α) (rest : Interleaving xs ys zs) :
    Interleaving xs (y :: ys) (y :: zs)

namespace Interleaving

variable {α β : Type} {xs ys zs : List α}

theorem ofLeft (xs : List α) : Interleaving xs [] xs := by
  induction xs with
  | nil => exact .nil
  | cons x xs ih => exact .left x ih

theorem ofRight (ys : List α) : Interleaving [] ys ys := by
  induction ys with
  | nil => exact .nil
  | cons y ys ih => exact .right y ih

theorem eq_of_left_nil (order : Interleaving [] ys zs) : zs = ys := by
  generalize empty : ([] : List α) = xs at order
  induction order with
  | nil => rfl
  | left => cases empty
  | right y _ ih => rw [ih empty]

theorem mem_iff (order : Interleaving xs ys zs) (z : α) : z ∈ zs ↔ z ∈ xs ∨ z ∈ ys := by
  induction order with
  | nil => simp
  | left x _ ih => simp only [List.mem_cons, ih, or_assoc]
  | right y _ ih => simp only [List.mem_cons, ih, or_left_comm]

theorem append {xs' ys' zs' : List α} (first : Interleaving xs ys zs)
    (second : Interleaving xs' ys' zs') : Interleaving (xs ++ xs') (ys ++ ys') (zs ++ zs') := by
  induction first with
  | nil => exact second
  | left x _ ih => exact .left x ih
  | right y _ ih => exact .right y ih

/-- What is made of the elements one by one comes in the order of the elements. -/
theorem flatMap (order : Interleaving xs ys zs) (f : α → List β) :
    Interleaving (xs.flatMap f) (ys.flatMap f) (zs.flatMap f) := by
  induction order with
  | nil => exact .nil
  | left x _ ih => exact (ofLeft (f x)).append ih
  | right y _ ih => exact (ofRight (f y)).append ih

/-- Where an element of the first sequence stands, both sequences are cut. -/
theorem cut {before after : List α} {x : α} (order : Interleaving (before ++ x :: after) ys zs) :
    ∃ ys₁ ys₂ zs₁ zs₂, ys = ys₁ ++ ys₂ ∧ zs = zs₁ ++ x :: zs₂ ∧
      Interleaving before ys₁ zs₁ ∧ Interleaving after ys₂ zs₂ := by
  generalize whole : before ++ x :: after = xs at order
  induction order generalizing before with
  | nil => simp at whole
  | @left xs ys zs z rest ih =>
    cases before with
    | nil =>
      obtain ⟨rfl, rfl⟩ := List.cons.inj whole
      exact ⟨[], ys, [], zs, rfl, rfl, .nil, rest⟩
    | cons b before =>
      obtain ⟨rfl, others⟩ := List.cons.inj whole
      obtain ⟨ys₁, ys₂, zs₁, zs₂, rfl, rfl, first, second⟩ := ih others
      exact ⟨ys₁, ys₂, b :: zs₁, zs₂, rfl, rfl, .left b first, second⟩
  | right y rest ih =>
    obtain ⟨ys₁, ys₂, zs₁, zs₂, rfl, rfl, first, second⟩ := ih whole
    exact ⟨y :: ys₁, ys₂, y :: zs₁, zs₂, rfl, rfl, .right y first, second⟩

end Interleaving

end Scaffold
