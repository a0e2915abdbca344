import Mathlib.Data.List.Basic
import Scaffold.Proofs.Document.Reading

/-! Trees as JSON has them. Such a tree can be read without a wish for a type wherever there is room for
all its levels. -/
namespace Scaffold.Document

namespace Tree

/-- A JSON value: the keys of a record are texts, and no two of them are the same. -/
inductive IsJson : Tree → Prop where
  | atom (a : Atom) : IsJson (.atom a)
  | list {items : List Tree} (each : ∀ t ∈ items, IsJson t) : IsJson (.list items)
  | record {fields : List (String × Tree)} (distinct : (fields.map Prod.fst).Nodup)
      (each : ∀ f ∈ fields, IsJson f.2) : IsJson (.ofFields fields)

theorem ofFields_injective : Function.Injective ofFields := by
  intro fields fields' same
  refine List.map_injective_iff.mpr (fun f g here => ?_) (record.inj same)
  obtain ⟨key, value⟩ := Prod.mk.inj here
  injection key with scalar
  have text : some f.1 = some g.1 := congrArg Scalar.text? scalar
  exact Prod.ext (Option.some.inj text) value

theorem isJson_ofFields_iff {fields : List (String × Tree)} :
    (ofFields fields).IsJson ↔ (fields.map Prod.fst).Nodup ∧ ∀ f ∈ fields, f.2.IsJson := by
  refine ⟨fun json => ?_, fun ⟨distinct, each⟩ => .record distinct each⟩
  generalize written : ofFields fields = t at json
  cases json with
  | atom => cases written
  | list => cases written
  | record distinct each =>
    cases ofFields_injective written
    exact ⟨distinct, each⟩

theorem isJson_list_iff {items : List Tree} : (list items).IsJson ↔ ∀ t ∈ items, t.IsJson :=
  ⟨fun | .list each => each, .list⟩

theorem IsJson.isBare {t : Tree} (json : t.IsJson) : t.IsBare := by
  cases json <;> trivial

theorem allComplete_iff (ts : List Tree) : allComplete ts = true ↔ ∀ t ∈ ts, t.isComplete = true := by
  induction ts with
  | nil => simp [allComplete]
  | cons t ts ih => simp [allComplete, ih]

theorem entriesComplete_written (fields : List (String × Tree)) :
    entriesComplete (Fields.written fields) = true ↔ ∀ f ∈ fields, f.2.isComplete = true := by
  induction fields with
  | nil => simp [Fields.written, entriesComplete]
  | cons f fields ih =>
    change ((true && f.2.isComplete) && entriesComplete (Fields.written fields)) = true ↔ _
    simp [ih]

theorem IsJson.isComplete {t : Tree} (json : t.IsJson) : t.isComplete = true := by
  induction json with
  | atom => rfl
  | list each complete => exact (allComplete_iff _).mpr complete
  | record distinct each complete => exact (entriesComplete_written _).mpr complete

/-! Levels. -/

mutual

/-- How many lists and records lie within each other in a tree. -/
def nesting : Tree → Nat
  | list items => allNesting items + 1
  | record entries => entriesNesting entries + 1
  | tagged t => t.nesting
  | _ => 0

def allNesting : List Tree → Nat
  | [] => 0
  | t :: ts => max t.nesting (allNesting ts)

def entriesNesting : List (Tree × Tree) → Nat
  | [] => 0
  | (key, value) :: entries => max (max key.nesting value.nesting) (entriesNesting entries)

end

theorem allNesting_le {ts : List Tree} {room : Nat} :
    allNesting ts ≤ room ↔ ∀ t ∈ ts, t.nesting ≤ room := by
  induction ts with
  | nil => simp [allNesting]
  | cons t ts ih => rw [allNesting, Nat.max_le, ih, List.forall_mem_cons]

theorem entriesNesting_le {fields : List (String × Tree)} {room : Nat} :
    entriesNesting (Fields.written fields) ≤ room ↔ ∀ f ∈ fields, f.2.nesting ≤ room := by
  induction fields with
  | nil => simp [Fields.written, entriesNesting]
  | cons f fields ih =>
    change max (max 0 f.2.nesting) (entriesNesting (Fields.written fields)) ≤ room ↔ _
    rw [Nat.zero_max, Nat.max_le, ih, List.forall_mem_cons]

theorem nesting_list_le {items : List Tree} {room : Nat} :
    (list items).nesting ≤ room + 1 ↔ ∀ t ∈ items, t.nesting ≤ room :=
  Nat.succ_le_succ_iff.trans allNesting_le

theorem nesting_ofFields_le {fields : List (String × Tree)} {room : Nat} :
    (ofFields fields).nesting ≤ room + 1 ↔ ∀ f ∈ fields, f.2.nesting ≤ room :=
  Nat.succ_le_succ_iff.trans entriesNesting_le

end Tree

/-! Reading without a wish for a type. -/

section Readable

variable (s : Setting)

/-- What looking through a tree comes to: it needs room for so many levels, and follows no alias. -/
def Levels (levels : Nat) (room : Nat) (x : Reading PUnit) : Prop :=
  ∀ n, x.run n = (if levels ≤ room then .ok ⟨⟩ else .error .malformed, n)

theorem Levels.gives {levels room limit : Nat} {x : Reading PUnit} (needed : Levels levels room x)
    (fits : levels ≤ room) : Gives limit x ⟨⟩ := by
  intro n _
  rw [needed n, if_pos fits]

theorem Levels.bind {room first second : Nat} {x y : Reading PUnit} (left : Levels first room x)
    (right : Levels second room y) : Levels (max first second) room (x >>= fun _ => y) := by
  intro n
  have known : StateT.run x.run n = _ := left n
  have next : StateT.run y.run n = _ := right n
  change StateT.run (x >>= fun _ => y).run n = _
  rw [ExceptT.run_bind, StateT.run_bind, known]
  by_cases fits : first ≤ room
  · simp only [fits, Nat.max_le, true_and, if_true]
    exact next
  · simp only [fits, Nat.max_le, false_and, if_false]
    rfl

theorem levels_items {room : Nat} {items : List Tree}
    (each : ∀ t ∈ items, Levels t.nesting room (checkReadable s room t)) :
    Levels (Tree.allNesting items) room (items.forM (checkReadable s room)) := by
  induction items with
  | nil => exact fun n => rfl
  | cons t items ih =>
    exact (each t List.mem_cons_self).bind (ih fun u member => each u (List.mem_cons_of_mem t member))

theorem levels_atom (room : Nat) (a : Atom) : Levels 0 room (checkReadable s room (.atom a)) :=
  fun n => by rw [if_pos (Nat.zero_le room)]; exact gives_checkReadable_atom s n room a n (Nat.le_refl n)

theorem levels_entries {room : Nat} {fields : List (String × Tree)}
    (each : ∀ f ∈ fields, Levels f.2.nesting room (checkReadable s room f.2)) :
    Levels (Tree.entriesNesting (Fields.written fields)) room ((Fields.written fields).forM fun e => do
      checkReadable s room e.1
      checkReadable s room e.2) := by
  induction fields with
  | nil => exact fun n => rfl
  | cons f fields ih =>
    have here := (levels_atom s room (.text f.1)).bind (each f List.mem_cons_self)
    exact here.bind (ih fun g member => each g (List.mem_cons_of_mem f member))

theorem levels_list {items : List Tree}
    (each : ∀ t ∈ items, ∀ room, Levels t.nesting room (checkReadable s room t)) (room : Nat) :
    Levels (Tree.list items).nesting room (checkReadable s room (.list items)) := by
  cases room with
  | zero =>
    rw [checkReadable_zero, s.follow_of_isBare (t := .list _) trivial, pure_bind]
    exact fun n => rfl
  | succ room =>
    rw [checkReadable_succ, s.follow_of_isBare (t := .list _) trivial, pure_bind]
    intro n
    rw [show (Tree.list items).nesting = Tree.allNesting items + 1 from rfl]
    simpa using levels_items s (fun t member => each t member room) n

theorem levels_ofFields {fields : List (String × Tree)}
    (each : ∀ f ∈ fields, ∀ room, Levels f.2.nesting room (checkReadable s room f.2)) (room : Nat) :
    Levels (Tree.ofFields fields).nesting room (checkReadable s room (.ofFields fields)) := by
  cases room with
  | zero =>
    rw [checkReadable_zero, s.follow_of_isBare (t := .ofFields _) trivial, pure_bind]
    exact fun n => rfl
  | succ room =>
    rw [checkReadable_succ, s.follow_of_isBare (t := .ofFields _) trivial, pure_bind]
    intro n
    rw [show (Tree.ofFields fields).nesting =
      Tree.entriesNesting (Fields.written fields) + 1 from rfl]
    simp only [Nat.add_le_add_iff_right]
    exact levels_entries s (fun f member => each f member room) n

theorem levels_of_isJson {t : Tree} (json : t.IsJson) (room : Nat) :
    Levels t.nesting room (checkReadable s room t) := by
  induction json generalizing room with
  | atom a => exact levels_atom s room a
  | list each ih => exact levels_list s ih room
  | record distinct each ih => exact levels_ofFields s ih room

end Readable

end Scaffold.Document
