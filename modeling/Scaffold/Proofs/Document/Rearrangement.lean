import Mathlib.Data.List.Nodup
import Mathlib.Data.List.Perm.Basic
import Scaffold.Proofs.Document.Nesting

/-! Trees whose records have their entries in other places, and fields that are changed one by one, put
into another order and added to. -/
namespace Scaffold.Document

namespace Tree

/-- Fields that come from others: each one is changed by itself, more are added, and all are put into
some order. -/
def Rearranged (changed : String → Tree → Tree → Prop) (added : String × Tree → Prop)
    (fields fields' : List (String × Tree)) : Prop :=
  ∃ kept more, List.Forall₂ (fun f f' => f'.1 = f.1 ∧ changed f.1 f.2 f'.2) fields kept ∧
    (∀ f ∈ more, added f) ∧ (kept ++ more).Perm fields'

/-- The entries of records at any place are put into another order. -/
inductive Reordered : Tree → Tree → Prop where
  | same (t : Tree) : Reordered t t
  | list {items items' : List Tree} (length : items.length = items'.length)
      (each : ∀ p ∈ items.zip items', Reordered p.1 p.2) : Reordered (.list items) (.list items')
  | record {fields kept fields' : List (String × Tree)} (keys : fields.map Prod.fst = kept.map Prod.fst)
      (each : ∀ p ∈ fields.zip kept, Reordered p.1.2 p.2.2) (moved : kept.Perm fields') :
      Reordered (.ofFields fields) (.ofFields fields')

theorem exists_of_mem_zip {α β : Type} {as : List α} {bs : List β} (length : as.length = bs.length)
    {b : β} (member : b ∈ bs) : ∃ a ∈ as, (a, b) ∈ as.zip bs := by
  induction as generalizing bs with
  | nil =>
    rw [List.eq_nil_of_length_eq_zero length.symm] at member
    cases member
  | cons a as ih =>
    cases bs with
    | nil => cases member
    | cons b' bs =>
      rcases List.mem_cons.mp member with rfl | later
      · exact ⟨a, List.mem_cons_self, List.mem_cons_self⟩
      · obtain ⟨a', inside, pair⟩ := ih (Nat.succ.inj length) later
        exact ⟨a', List.mem_cons_of_mem a inside, List.mem_cons_of_mem _ pair⟩

/-- Trees of one kind: the same scalar, or both lists, or both records. -/
inductive Alike : Tree → Tree → Prop where
  | scalar (s : Scalar) : Alike (.scalar s) (.scalar s)
  | list (items items' : List Tree) : Alike (.list items) (.list items')
  | record (entries entries' : List (Tree × Tree)) : Alike (.record entries) (.record entries')

namespace Reordered

variable {t t' : Tree}

theorem isJson (reordered : Reordered t t') (json : t.IsJson) : t'.IsJson := by
  induction reordered with
  | same t => exact json
  | list length each ih =>
    refine .list fun u member => ?_
    obtain ⟨v, inside, pair⟩ := exists_of_mem_zip length member
    exact ih _ pair (isJson_list_iff.mp json v inside)
  | record keys each moved ih =>
    obtain ⟨distinct, all⟩ := isJson_ofFields_iff.mp json
    refine .record ((moved.map Prod.fst).nodup_iff.mp (keys ▸ distinct)) fun f member => ?_
    obtain ⟨g, inside, pair⟩ :=
      exists_of_mem_zip (by simpa using congrArg List.length keys) (moved.mem_iff.mpr member)
    exact ih _ pair (all g inside)

/-- No level comes to a tree. -/
theorem nesting_le (reordered : Reordered t t') (room : Nat) (fits : t.nesting ≤ room) :
    t'.nesting ≤ room := by
  induction reordered generalizing room with
  | same t => exact fits
  | list length each ih =>
    cases room with
    | zero => cases fits
    | succ room =>
      refine nesting_list_le.mpr fun u member => ?_
      obtain ⟨v, inside, pair⟩ := exists_of_mem_zip length member
      exact ih _ pair room (nesting_list_le.mp fits v inside)
  | record keys each moved ih =>
    cases room with
    | zero => cases fits
    | succ room =>
      refine nesting_ofFields_le.mpr fun f member => ?_
      obtain ⟨g, inside, pair⟩ :=
        exists_of_mem_zip (by simpa using congrArg List.length keys) (moved.mem_iff.mpr member)
      exact ih _ pair room (nesting_ofFields_le.mp fits g inside)

theorem alike (reordered : Reordered t t') (json : t.IsJson) : t.Alike t' := by
  cases reordered with
  | same =>
    cases json with
    | atom a => exact .scalar _
    | list each => exact .list _ _
    | record distinct each => exact .record _ _
  | list => exact .list _ _
  | record => exact .record _ _

end Reordered

end Tree

/-! What has been rearranged. -/

theorem map_eq_map_of_forall₂ {R : α → β → Prop} {f : α → γ} {g : β → γ} {as : List α} {bs : List β}
    (related : List.Forall₂ R as bs) (same : ∀ a b, R a b → g b = f a) : bs.map g = as.map f := by
  induction related with
  | nil => rfl
  | cons here rest ih => rw [List.map_cons, List.map_cons, same _ _ here, ih]

namespace Tree.Rearranged

variable {changed : String → Tree → Tree → Prop} {added : String × Tree → Prop}
  {fields fields' : List (String × Tree)}

theorem of_forall₂ (same : List.Forall₂ (fun f f' => f'.1 = f.1 ∧ changed f.1 f.2 f'.2) fields fields') :
    Rearranged changed added fields fields' :=
  ⟨fields', [], same, nofun, by rw [List.append_nil]⟩

/-- What is known of the fields at first may be used where they are changed. -/
theorem and_left {known : Tree → Prop} (rearranged : Rearranged changed added fields fields')
    (each : ∀ f ∈ fields, known f.2) :
    Rearranged (fun name t t' => known t ∧ changed name t t') added fields fields' := by
  obtain ⟨kept, more, same, extra, moved⟩ := rearranged
  refine ⟨kept, more, ((List.forall₂_and_left _ _).mpr ⟨each, same⟩).imp ?_, extra, moved⟩
  rintro f f' ⟨here, key, revised⟩
  exact ⟨key, here, revised⟩

/-- A field comes from one with its key, or was added. -/
theorem source (rearranged : Rearranged changed added fields fields') {f' : String × Tree}
    (member : f' ∈ fields') : (∃ f ∈ fields, f'.1 = f.1 ∧ changed f.1 f.2 f'.2) ∨ added f' := by
  obtain ⟨kept, more, same, extra, moved⟩ := rearranged
  rcases List.mem_append.mp (moved.mem_iff.mpr member) with inside | inside
  · obtain ⟨length, each⟩ := List.forall₂_iff_zip.mp same
    obtain ⟨f, here, pair⟩ := exists_of_mem_zip length inside
    exact .inl ⟨f, here, each pair⟩
  · exact .inr (extra f' inside)

theorem lookup_kept {kept : List (String × Tree)} (name : String)
    (same : List.Forall₂ (fun f f' => f'.1 = f.1 ∧ changed f.1 f.2 f'.2) fields kept) :
    Option.Rel (changed name) (fields.lookup name) (kept.lookup name) := by
  induction same with
  | nil => exact .none
  | @cons f f' fields kept here rest ih =>
    obtain ⟨key, t⟩ := f
    obtain ⟨key', t'⟩ := f'
    obtain ⟨rfl, revised⟩ := here
    rw [List.lookup_cons, List.lookup_cons]
    by_cases match_ : name = key'
    · subst match_
      simpa using Option.Rel.some revised
    · simpa [beq_false_of_ne match_] using ih

theorem mem_of_lookup {l : List (String × Tree)} {name : String} {t : Tree}
    (found : l.lookup name = some t) : (name, t) ∈ l := by
  obtain ⟨before, after, rfl, -⟩ := List.lookup_eq_some_iff.mp found
  exact List.mem_append_right before List.mem_cons_self

/-- A key that stands once is found wherever it stands. -/
theorem lookup_perm {l l' : List (String × Tree)} {name : String} (moved : l.Perm l')
    (once : ∀ t t', (name, t) ∈ l → (name, t') ∈ l → t = t') : l.lookup name = l'.lookup name := by
  cases found : l.lookup name with
  | none =>
    refine (List.lookup_eq_none_iff.mpr fun f member => ?_).symm
    exact List.lookup_eq_none_iff.mp found f (moved.mem_iff.mpr member)
  | some t =>
    have here := mem_of_lookup found
    cases found' : l'.lookup name with
    | none =>
      have absent := List.lookup_eq_none_iff.mp found' _ (moved.mem_iff.mp here)
      simp at absent
    | some t' => rw [once t t' here (moved.mem_iff.mpr (mem_of_lookup found'))]

theorem lookup (rearranged : Rearranged changed added fields fields')
    (distinct : (fields.map Prod.fst).Nodup) {name : String} (apart : ∀ f, added f → f.1 ≠ name) :
    Option.Rel (changed name) (fields.lookup name) (fields'.lookup name) := by
  obtain ⟨kept, more, same, extra, moved⟩ := rearranged
  have absent : more.lookup name = none :=
    List.lookup_eq_none_iff.mpr fun f member => by simpa using (apart f (extra f member)).symm
  have once (t t' : Tree) (first : (name, t) ∈ kept ++ more) (second : (name, t') ∈ kept ++ more) :
      t = t' := by
    have inside {t : Tree} (member : (name, t) ∈ kept ++ more) : (name, t) ∈ kept :=
      (List.mem_append.mp member).resolve_right fun other => apart _ (extra _ other) rfl
    have keys := map_eq_map_of_forall₂ (f := Prod.fst) (g := Prod.fst) same fun _ _ here => here.1
    have distinct' : (kept.map Prod.fst).Nodup := keys ▸ distinct
    exact congrArg Prod.snd (List.inj_on_of_nodup_map distinct' (inside first) (inside second) rfl)
  rw [← lookup_perm moved once, List.lookup_append, absent, Option.or_none]
  exact lookup_kept name same

/-- No key among known ones comes to stand twice. -/
theorem known_nodup (rearranged : Rearranged changed added fields fields')
    (distinct : (fields.map Prod.fst).Nodup) {known : String → Bool}
    (apart : ∀ f, added f → known f.1 = false) : ((fields'.map Prod.fst).filter known).Nodup := by
  obtain ⟨kept, more, same, extra, moved⟩ := rearranged
  have none_known : (more.map Prod.fst).filter known = [] := by
    refine List.filter_eq_nil_iff.mpr fun key member => ?_
    obtain ⟨f, inside, rfl⟩ := List.mem_map.mp member
    simp [apart f (extra f inside)]
  refine (((moved.map Prod.fst).filter known).nodup_iff).mp ?_
  rw [List.map_append, List.filter_append, none_known, List.append_nil,
    map_eq_map_of_forall₂ (f := Prod.fst) (g := Prod.fst) same fun _ _ here => here.1]
  exact distinct.filter known

end Tree.Rearranged

end Scaffold.Document
