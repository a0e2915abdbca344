import Scaffold.Prompt.Question
import Scaffold.Proofs.Text.Blank
import Scaffold.Proofs.Text.Pieces

/-! The texts of answers. What has been read from a text has a text of its own, from which the same answer is
read again, and a list is read from its text unless nothing but one empty text is in it. -/
namespace Scaffold

open Text

namespace Answer

/-- A text that can stand between commas. -/
structure IsItem (s : String) : Prop where
  trimmed : IsTrimmed s.toList
  undivided : ',' ∉ s.toList

/-- A list that can be read from a text. -/
def IsReadable (items : List String) : Prop := (∀ item ∈ items, IsItem item) ∧ items ≠ [""]

theorem isItem_of_mem_splitList {s item : String} (member : item ∈ splitList s) : IsItem item := by
  obtain ⟨piece, cut, rfl⟩ := List.mem_map.mp member
  obtain ⟨before, after, -, -, whole, trimmed⟩ := exists_trim piece
  refine ⟨by rwa [String.toList_ofList], fun comma => notMem_of_mem_pieces cut ?_⟩
  rw [String.toList_ofList] at comma
  rw [whole]
  exact List.mem_append_left _ (List.mem_append_right _ comma)

/-- A text that is cut into one empty item is blank. -/
theorem splitList_eq_singleton_iff {s : String} : splitList s = [""] ↔ trim s.toList = [] := by
  have joined := intercalate_pieces ',' s.toList
  constructor
  · intro alone
    obtain ⟨piece, cut, empty⟩ := List.map_eq_singleton_iff.mp alone
    rw [cut, List.intercalate_singleton] at joined
    rw [← joined]
    exact String.ofList_eq_empty_iff.mp empty
  · intro empty
    obtain ⟨before, after, blank, blank', whole, -⟩ := exists_trim s.toList
    rw [empty, List.append_nil] at whole
    have free : ',' ∉ s.toList := by
      intro comma
      have known : isBlank ',' = false := by decide
      rw [whole] at comma
      rw [blank.append blank' ',' comma] at known
      cases known
    rw [splitList, pieces_of_notMem free, List.map_singleton, empty]

theorem splitList_display {items : List String} (each : ∀ item ∈ items, IsItem item) (filled : items ≠ []) :
    splitList (display (.texts items)) = items := by
  have free : ∀ s ∈ items.map String.toList, ',' ∉ s := by
    intro s member
    obtain ⟨item, inside, rfl⟩ := List.mem_map.mp member
    exact (each item inside).undivided
  rw [splitList, display, String.toList_intercalate]
  rw [show ",".toList = [','] from rfl, pieces_intercalate (by simpa using filled) free, List.map_map]
  refine (List.map_congr_left fun item inside => ?_).trans (List.map_id items)
  rw [Function.comp_apply, trim_of_isTrimmed (each item inside).trimmed, String.ofList_toList]
  rfl

theorem ofText_display_of_isReadable (options : List QuestionOption) {items : List String}
    (readable : IsReadable items) : ofText (.multiselect options) (display (.texts items)) = .texts items := by
  obtain ⟨each, mixed⟩ := readable
  by_cases filled : items = []
  · subst filled
    rfl
  · have split := splitList_display each filled
    have visible : (trimmed (display (.texts items))).isEmpty = false := by
      rw [Bool.eq_false_iff, Ne, String.isEmpty_iff, trimmed, String.ofList_eq_empty_iff,
        ← splitList_eq_singleton_iff, split]
      exact mixed
    rw [ofText, visible, split]
    rfl

theorem exists_isReadable (options : List QuestionOption) (s : String) :
    ∃ items, ofText (.multiselect options) s = .texts items ∧ IsReadable items := by
  cases blank : (trimmed s).isEmpty with
  | true => exact ⟨[], by rw [ofText, blank]; rfl, nofun, nofun⟩
  | false =>
    rw [Bool.eq_false_iff, Ne, String.isEmpty_iff, trimmed, String.ofList_eq_empty_iff] at blank
    refine ⟨splitList s, ?_, fun item member => isItem_of_mem_splitList member, ?_⟩
    · rw [ofText, if_neg]
      rwa [String.isEmpty_iff, trimmed, String.ofList_eq_empty_iff]
    · rwa [Ne, splitList_eq_singleton_iff]

theorem display_value (a : Answer) : a.value.display = a.display := by
  cases a with
  | flag b => cases b <;> rfl
  | text s => rfl
  | texts items => rfl

/-- Reading the text of what has been read gives it again, and the value that is stored for it has the same text.
Every list that is read from a text is made of trimmed items without commas and is not the list of one empty
item, and each such list is read from its own text; that list alone is taken for the empty one. -/
theorem ofText_normal (kind : QuestionKind) (s : String) :
    ofText kind (ofText kind s).display = ofText kind s ∧
    (ofText kind s).value.display = (ofText kind s).display ∧
    ∀ options,
      (∃ items, ofText (.multiselect options) s = .texts items ∧ IsReadable items) ∧
      (∀ items, IsReadable items → ofText (.multiselect options) (display (.texts items)) = .texts items) ∧
      ofText (.multiselect options) (display (.texts [""])) = .texts [] := by
  refine ⟨?_, display_value _, fun options =>
    ⟨exists_isReadable options s, fun items => ofText_display_of_isReadable options, rfl⟩⟩
  cases kind with
  | input | password | select => rfl
  | confirm =>
    have yes : isYes "true" = true := by decide +kernel
    have no : isYes "false" = false := by decide +kernel
    have confirmed (s : String) : ofText .confirm s = flag (isYes s) := rfl
    rw [confirmed s]
    cases isYes s with
    | true => rw [confirmed, display, yes]
    | false => rw [confirmed, display, no]
  | multiselect options =>
    obtain ⟨items, read, readable⟩ := exists_isReadable options s
    rw [read, ofText_display_of_isReadable options readable]

end Answer

end Scaffold
