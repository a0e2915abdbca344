import Mathlib.Data.List.Infix
import Scaffold.Proofs.Template.Agreement

/-! Resolving a resolved template again. When the double braces that the blocks leave each begin a
placeholder, no new ones come into being next to inserted texts without braces, and the second
resolution finds what the first has left in its place. -/
namespace Scaffold

open Text

def Warning.isUndefined : Warning → Bool
  | undefinedVariable _ => true
  | unrecognizedCondition _ => false

/-- No display text has a brace that could open a placeholder. -/
def Variables.Braceless (vars : Variables) : Prop :=
  ∀ name value, vars.get? name = some value → '{' ∉ value.display.toList

namespace Template

/-- Double braces stand only where a placeholder begins. -/
def Orderly (s : List Char) : Prop :=
  ∀ rest, rest <:+ s → opening <+: rest → placeholders.StartsAt rest

instance (s : List Char) : Decidable (placeholders.StartsAt s) :=
  decidable_of_iff ((placeholder? s).isSome = true) <| by
    rw [Option.isSome_iff_exists, Prod.exists]
    exact exists₂_congr fun name after => placeholder?_eq_some

instance (s : List Char) : Decidable (Orderly s) :=
  decidable_of_iff (∀ rest ∈ s.tails, opening <+: rest → placeholders.StartsAt rest) <| by
    simp only [List.mem_tails, Orderly]

theorem opening_prefix_of_startsAt {s : List Char} (start : placeholders.StartsAt s) :
    opening <+: s := by
  obtain ⟨name, rest, -, rfl⟩ := start
  exact ⟨name.toList ++ closing ++ rest, by simp [placeholders]⟩

/-! Blocks of an orderly text. -/

theorem Orderly.not_startsAt_block {s rest : List Char} (orderly : Orderly s) (suffix : rest <:+ s) :
    ¬ blocks.StartsAt rest := by
  rintro ⟨b, after, -, rfl⟩
  obtain ⟨name, rest, named, same⟩ :=
    orderly _ suffix ⟨"#if".toList ++ b.blanks ++ b.condition ++ closing ++ b.body ++ blockEnd ++ after,
      by simp [blocks, WrittenBlock.source, blockStart, opening]⟩
  obtain ⟨c, more, whole⟩ := List.exists_cons_of_ne_nil named.1
  have word := named.2 c (by rw [whole]; exact .head _)
  have third := congrArg (·[2]?) same
  obtain rfl : '#' = c := by
    simpa [blocks, WrittenBlock.source, blockStart, placeholders, opening, whole] using third
  exact absurd word (by decide)

theorem Orderly.resolveBlocks_eq {s : List Char} (orderly : Orderly s) (vars : Variables) :
    resolveBlocks vars s = pure s := by
  by_cases empty : s = []
  · subst empty
    rw [Template.resolveBlocks_eq vars .nil]
    rfl
  · have cut : blocks.Cuts s [.plain s] := .ofPlain empty fun l₁ l₂ split _ =>
      orderly.not_startsAt_block ⟨l₁, split.symm⟩
    rw [Template.resolveBlocks_eq vars cut]
    ext1 <;> simp [kept, refused?]

/-! Placeholders of an orderly text. -/

/-- In `l` no double braces begin when `rest` follows. -/
def Apart (l rest : List Char) : Prop :=
  ∀ l₁ l₂, l = l₁ ++ l₂ → l₂ ≠ [] → ¬ opening <+: l₂ ++ rest

theorem apart_of_notMem {l : List Char} (absent : '{' ∉ l) (rest : List Char) : Apart l rest := by
  rintro l₁ l₂ rfl full begins
  obtain ⟨c, more, rfl⟩ := List.exists_cons_of_ne_nil full
  obtain ⟨rfl, -⟩ := List.cons_prefix_cons.mp begins
  exact absent (List.mem_append_right l₁ (.head _))

theorem Apart.tail {c : Char} {l rest : List Char} (apart : Apart (c :: l) rest) : Apart l rest :=
  fun l₁ l₂ split => apart (c :: l₁) l₂ (by rw [split]; rfl)

theorem Orderly.cons {c : Char} {s : List Char} (start : opening <+: c :: s → placeholders.StartsAt (c :: s))
    (orderly : Orderly s) : Orderly (c :: s) := by
  intro rest suffix
  rcases List.suffix_cons_iff.mp suffix with rfl | suffix
  · exact start
  · exact orderly rest suffix

theorem Orderly.append {l rest : List Char} (apart : Apart l rest) (orderly : Orderly rest) :
    Orderly (l ++ rest) := by
  induction l with
  | nil => exact orderly
  | cons c l ih =>
    exact .cons (fun begins => absurd begins (apart [] (c :: l) rfl (List.cons_ne_nil c l))) (ih apart.tail)

theorem Orderly.source_append {name : String} (named : placeholders.valid name) {rest : List Char}
    (orderly : Orderly rest) : Orderly (placeholders.source name ++ rest) := by
  have absent : '{' ∉ name.toList ++ closing := by
    intro member
    rcases List.mem_append.mp member with member | member
    · exact absurd (named.2 _ member) (by decide)
    · exact absurd member (by decide)
  have inner := Orderly.append (apart_of_notMem absent rest) orderly
  obtain ⟨c, more, whole⟩ := List.exists_cons_of_ne_nil named.1
  have second : ¬ opening <+: '{' :: (name.toList ++ closing ++ rest) := by
    intro begins
    rw [whole] at begins absent
    obtain ⟨rfl, -⟩ := List.cons_prefix_cons.mp (List.cons_prefix_cons.mp begins).2
    exact absent (.head _)
  have both : placeholders.source name ++ rest = '{' :: '{' :: (name.toList ++ closing ++ rest) := by
    simp [placeholders, opening]
  rw [both]
  exact .cons (fun _ => ⟨name, rest, named, both.symm⟩) (.cons (fun begins => absurd begins second) inner)

theorem fill_append (vars : Variables) {l rest : List Char} (apart : Apart l rest) :
    fill vars (l ++ rest) = (l ++ ·) <$> fill vars rest := by
  induction l with
  | nil => ext1 <;> simp
  | cons c l ih =>
    have free : ¬ placeholders.StartsAt (c :: (l ++ rest)) := fun start =>
      apart [] (c :: l) rfl (List.cons_ne_nil c l) (opening_prefix_of_startsAt start)
    have same := ih apart.tail
    rw [fill, Warned.mapM_eq] at same ⊢
    rw [List.cons_append, pieces_cons free]
    obtain ⟨values, warnings⟩ := Warned.ext_iff.mp same
    ext1
    · simpa [Piece.resolve] using values
    · simpa [Piece.resolve] using warnings

theorem fill_source_append (vars : Variables) {name : String} (named : placeholders.valid name)
    (rest : List Char) : fill vars (placeholders.source name ++ rest) =
      ⟨inserted vars (.token name) ++ (fill vars rest).value,
        (unknown? vars (.token name)).toList ++ (fill vars rest).warnings⟩ := by
  obtain ⟨holes, cut⟩ := TokenForm.exists_cuts placeholders_definite rest
  rw [fill_eq vars (cut.token named), fill_eq vars cut]
  ext1
  · rfl
  · cases found : unknown? vars (.token name) <;> simp [found]

/-- A stretch between placeholders stays apart from what these become. -/
theorem apart_of_cuts (vars : Variables) {s l : List Char} {holes : List (Chunk String)}
    (orderly : Orderly s) (cut : placeholders.Cuts s (.plain l :: holes)) :
    Apart l (holes.flatMap (inserted vars)) := by
  intro l₁ l₂ split full begins
  have free : ¬ opening <+: l₂ ++ placeholders.joined holes := by
    intro begins
    refine cut.leftmost [] l holes rfl l₁ l₂ split full (orderly _ ⟨l₁, ?_⟩ begins)
    rw [← List.append_assoc, ← split]
    exact cut.joined
  by_cases long : opening.length ≤ l₂.length
  · have inside : opening <+: l₂ := List.prefix_of_prefix_length_le begins ⟨_, rfl⟩ long
    exact free (inside.trans (List.prefix_append _ _))
  · obtain ⟨c, more, rfl⟩ := List.exists_cons_of_ne_nil full
    obtain rfl : more = [] := by
      refine List.eq_nil_of_length_eq_zero ?_
      simp only [opening, List.length_cons, List.length_nil] at long
      omega
    obtain ⟨rfl, second⟩ := List.cons_prefix_cons.mp begins
    -- The stretch ends in a brace, so a brace would have to follow, and only a placeholder can.
    cases holes with
    | nil => exact absurd second (by simp)
    | cons p holes =>
      cases p with
      | plain m => exact cut.apart [] l m holes rfl
      | token name => exact free ⟨'{' :: (name.toList ++ closing) ++ placeholders.joined holes, by
          simp [placeholders, opening]⟩

theorem fill_filled {vars : Variables} (braceless : vars.Braceless) {s : List Char}
    {holes : List (Chunk String)} (orderly : Orderly s) (cut : placeholders.Cuts s holes) :
    Orderly (holes.flatMap (inserted vars)) ∧
      fill vars (holes.flatMap (inserted vars)) =
        ⟨holes.flatMap (inserted vars), holes.filterMap (unknown? vars)⟩ := by
  induction holes generalizing s with
  | nil =>
    refine ⟨fun rest suffix begins => ?_, fill_nil vars⟩
    rw [List.flatMap_nil, List.suffix_nil] at suffix
    rw [suffix] at begins
    exact absurd begins (by decide)
  | cons p holes ih =>
    have rest : Orderly (placeholders.joined holes) := by
      intro more suffix
      rw [← cut.joined] at orderly
      exact orderly more (suffix.trans (List.suffix_append _ _))
    obtain ⟨ordered, filled⟩ := ih rest cut.tail
    rw [List.flatMap_cons]
    cases p with
    | plain l =>
      have apart := apart_of_cuts vars orderly cut
      refine ⟨.append apart ordered, ?_⟩
      rw [inserted, fill_append vars apart, filled]
      ext1 <;> simp [List.filterMap_cons, unknown?]
    | token name =>
      have named := cut.valid name (.head _)
      cases found : vars.get? name with
      | none =>
        have left : inserted vars (.token name) = placeholders.source name := by simp [inserted, found]
        rw [left]
        refine ⟨.source_append named ordered, ?_⟩
        rw [fill_source_append vars named, filled, left]
        ext1 <;> simp [unknown?, found]
      | some value =>
        have shown : inserted vars (.token name) = value.display.toList := by simp [inserted, found]
        have apart := apart_of_notMem (braceless name value found) (holes.flatMap (inserted vars))
        rw [shown]
        refine ⟨.append apart ordered, ?_⟩
        rw [fill_append vars apart, filled]
        ext1 <;> simp [unknown?, found]

theorem isUndefined_of_unknown? {vars : Variables} {p : Chunk String} {w : Warning}
    (unknown : unknown? vars p = some w) : w.isUndefined = true := by
  cases p with
  | plain l => cases unknown
  | token name =>
    rw [unknown?] at unknown
    split at unknown
    · cases unknown; rfl
    · cases unknown

theorem isUndefined_of_refused? {p : Chunk WrittenBlock} {w : Warning} (refused : refused? p = some w) :
    w.isUndefined = false := by
  cases p with
  | plain l => cases refused
  | token b =>
    rw [refused?] at refused
    split at refused
    · cases refused; rfl
    · cases refused

/-- What is resolved does not change when it is resolved again, and the variables that are missing are
reported again, in the same order. -/
theorem resolve_resolve {vars : Variables} {text : String} (braceless : vars.Braceless)
    (orderly : Orderly (resolveBlocks vars text.toList).value) :
    resolve vars (resolve vars text).value =
      ⟨(resolve vars text).value, (resolve vars text).warnings.filter Warning.isUndefined⟩ := by
  obtain ⟨parts, cut⟩ := TokenForm.exists_cuts blocks_definite text.toList
  have first := resolveBlocks_eq vars cut
  rw [first] at orderly
  obtain ⟨holes, filled⟩ :=
    TokenForm.exists_cuts placeholders_definite (parts.flatMap (kept vars))
  obtain ⟨ordered, again⟩ := fill_filled braceless orderly filled
  have once : resolve vars text = ⟨String.ofList (holes.flatMap (inserted vars)),
      parts.filterMap refused? ++ holes.filterMap (unknown? vars)⟩ := by
    rw [resolve, first]
    ext1 <;> simp [fill_eq vars filled]
  have left : (parts.filterMap refused?).filter Warning.isUndefined = [] := by
    refine List.filter_eq_nil_iff.mpr fun w member => ?_
    obtain ⟨p, -, refused⟩ := List.mem_filterMap.mp member
    simp [isUndefined_of_refused? refused]
  have right : (holes.filterMap (unknown? vars)).filter Warning.isUndefined =
      holes.filterMap (unknown? vars) := by
    refine List.filter_eq_self.mpr fun w member => ?_
    obtain ⟨p, -, unknown⟩ := List.mem_filterMap.mp member
    exact isUndefined_of_unknown? unknown
  rw [once, List.filter_append, left, right, List.nil_append, resolve, String.toList_ofList,
    ordered.resolveBlocks_eq]
  ext1 <;> simp [again]

/-- A block is kept, one of its two placeholders is filled, and the other one is left twice. -/
theorem resolve_resolve_of_missing_variable :
    ((∅ : Variables).insert "a" (.text "b")).Braceless ∧
      Orderly (resolveBlocks ((∅ : Variables).insert "a" (.text "b"))
        "\x7b\x7b#if a\x7d\x7d\x7b\x7ba\x7d\x7d\x7b\x7bc\x7d\x7d\x7b\x7b/if\x7d\x7d!".toList).value ∧
      resolve ((∅ : Variables).insert "a" (.text "b")) (resolve ((∅ : Variables).insert "a" (.text "b"))
          "\x7b\x7b#if a\x7d\x7d\x7b\x7ba\x7d\x7d\x7b\x7bc\x7d\x7d\x7b\x7b/if\x7d\x7d!").value =
        ⟨"b\x7b\x7bc\x7d\x7d!", [.undefinedVariable "c"]⟩ := by
  have braceless : ((∅ : Variables).insert "a" (.text "b")).Braceless := by
    intro name value found
    rw [Variables.get?_insert, Variables.get?_empty] at found
    split at found
    · cases found
      decide
    · cases found
  have orderly : Orderly (resolveBlocks ((∅ : Variables).insert "a" (.text "b"))
      "\x7b\x7b#if a\x7d\x7d\x7b\x7ba\x7d\x7d\x7b\x7bc\x7d\x7d\x7b\x7b/if\x7d\x7d!".toList).value := by
    decide +kernel
  refine ⟨braceless, orderly, (resolve_resolve braceless orderly).trans ?_⟩
  decide +kernel

end Template

end Scaffold
