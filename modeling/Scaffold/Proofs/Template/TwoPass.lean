import Scaffold.Proofs.Text.Blank
import Scaffold.Proofs.Text.Cutting
import Scaffold.Template

/-! Resolving a template is two replacements of leftmost tokens. The tokens, blocks first and
placeholders after them, are given by how they are written, and the cuts of a text at them are unique,
so that nothing of the scanner is left in the statement. -/
namespace Scaffold

open Text

namespace Warned

@[simp] theorem value_pure {α : Type} (a : α) : (pure a : Warned α).value = a := rfl

@[simp] theorem warnings_pure {α : Type} (a : α) : (pure a : Warned α).warnings = [] := rfl

@[simp] theorem value_bind {α β : Type} (x : Warned α) (next : α → Warned β) :
    (x >>= next).value = (next x.value).value := rfl

@[simp] theorem warnings_bind {α β : Type} (x : Warned α) (next : α → Warned β) :
    (x >>= next).warnings = x.warnings ++ (next x.value).warnings := rfl

@[simp] theorem value_map {α β : Type} (g : α → β) (x : Warned α) : (g <$> x).value = g x.value :=
  rfl

@[simp] theorem warnings_map {α β : Type} (g : α → β) (x : Warned α) :
    (g <$> x).warnings = x.warnings := List.append_nil _

theorem mapM_eq {α β : Type} (f : α → Warned β) (xs : List α) :
    xs.mapM f = ⟨xs.map fun x => (f x).value, xs.flatMap fun x => (f x).warnings⟩ := by
  induction xs with
  | nil => rfl
  | cons x xs ih =>
    rw [List.mapM_cons, ih]
    ext1 <;> simp

end Warned

namespace Template

/-! Blocks. -/

/-- A conditional block as it is written. -/
structure WrittenBlock where
  blanks : List Char
  condition : List Char
  body : List Char

namespace WrittenBlock

def source (b : WrittenBlock) : List Char :=
  blockStart ++ b.blanks ++ b.condition ++ closing ++ b.body ++ blockEnd

/-- The condition goes from the white space to the first closing braces, and the body from there to
the first end of a block. -/
structure Valid (b : WrittenBlock) : Prop where
  spaced : b.blanks ≠ []
  blank : ∀ c ∈ b.blanks, isBlank c = true
  trimmed : ∀ c, b.condition.head? = some c → isBlank c = false
  closed : IsFirst closing b.condition
  ended : IsFirst blockEnd b.body

end WrittenBlock

def blocks : TokenForm WrittenBlock where
  source := WrittenBlock.source
  valid := WrittenBlock.Valid

theorem block?_eq_some {s : List Char} {b : Block} :
    block? s = some b ↔ ∃ blanks, blocks.valid ⟨blanks, b.condition, b.body⟩ ∧
      s = blocks.source ⟨blanks, b.condition, b.body⟩ ++ b.after := by
  simp only [block?, Option.bind_eq_bind, Option.bind_eq_some_iff, dropStart?_eq_some]
  constructor
  · rintro ⟨rest, rfl, found⟩
    split at found
    · cases found
    · next spaced =>
      simp only [Option.pure_def, Option.bind_eq_some_iff, Prod.exists, Option.some.injEq,
        cut?_eq_some] at found
      obtain ⟨condition, more, ⟨opened, closed⟩, body, after, ⟨rfl, ended⟩, rfl⟩ := found
      obtain ⟨blanks, blank, whole, stop⟩ := exists_trimStart rest
      rw [opened] at whole stop
      refine ⟨blanks, ⟨?_, blank, ?_, closed, ended⟩, ?_⟩
      · rintro rfl
        cases rest with
        | nil => simp at spaced
        | cons c rest =>
          have first : isBlank c = true := by simpa using spaced
          have other : isBlank c = false := stop c (congrArg List.head? whole.symm)
          rw [first] at other
          cases other
      · intro c head
        exact stop c (by simp [head])
      · simp only [blocks, WrittenBlock.source, List.append_assoc] at whole ⊢
        rw [whole]
  · rintro ⟨blanks, ⟨spaced, blank, trimmed, closed, ended⟩, rfl⟩
    refine ⟨blanks ++ b.condition ++ closing ++ b.body ++ blockEnd ++ b.after,
      by simp [blocks, WrittenBlock.source], ?_⟩
    obtain ⟨c, more, rfl⟩ := List.exists_cons_of_ne_nil spaced
    have first : isBlank c = true := blank c (by simp)
    have stop : ∀ d, (b.condition ++ closing ++ b.body ++ blockEnd ++ b.after).head? = some d →
        isBlank d = false := by
      intro d head
      cases shape : b.condition with
      | nil =>
        rw [shape] at head
        cases (by simpa [closing] using head : '}' = d)
        decide
      | cons e condition =>
        rw [shape] at head
        exact trimmed d (by simpa [shape] using head)
    have rest := trimStart_append_of_blank blank stop
    simp only [List.append_assoc] at rest
    simp only [List.append_assoc, List.cons_append] at rest ⊢
    simp only [List.head?_cons, Option.any_some, first, Bool.not_true, Bool.false_eq_true,
      if_false, rest]
    simp only [Option.pure_def, Option.bind_eq_some_iff, Prod.exists, Option.some.injEq,
      cut?_eq_some]
    exact ⟨b.condition, b.body ++ (blockEnd ++ b.after), ⟨by simp, closed⟩, b.body, b.after,
      ⟨by simp, ended⟩, rfl⟩

theorem blocks_definite : blocks.Definite where
  nonempty b _ empty := by
    have sizes := congrArg List.length empty
    simp [blocks, WrittenBlock.source, blockStart] at sizes
  unique a b rest rest' valid valid' same := by
    have first : block? (blocks.source a ++ rest) = some ⟨a.condition, a.body, rest⟩ :=
      block?_eq_some.mpr ⟨a.blanks, valid, rfl⟩
    have second : block? (blocks.source a ++ rest) = some ⟨b.condition, b.body, rest'⟩ :=
      block?_eq_some.mpr ⟨b.blanks, valid', same⟩
    cases a with
    | mk blanks condition body =>
      cases b with
      | mk blanks' condition' body' =>
        obtain ⟨rfl, rfl, rfl⟩ := Block.mk.inj (Option.some.inj (first.symm.trans second))
        simp only [blocks, WrittenBlock.source, List.append_assoc, List.append_cancel_left_eq] at same
        rw [List.append_cancel_right same]

/-! Placeholders. -/

def placeholders : TokenForm String where
  source name := opening ++ name.toList ++ closing
  valid name := name.toList ≠ [] ∧ ∀ c ∈ name.toList, isWord c = true

theorem name?_eq_some {s : List Char} {name : String} :
    Condition.name? s = some name ↔ name.toList = s ∧ placeholders.valid name := by
  simp only [Condition.name?, placeholders]
  constructor
  · intro found
    split at found
    · next word =>
      cases found
      simpa using word
    · cases found
  · rintro ⟨rfl, full, word⟩
    have shape : (!name.toList.isEmpty && name.toList.all isWord) = true := by
      simpa using ⟨by simpa using full, word⟩
    rw [if_pos shape, String.ofList_toList]

theorem placeholder?_eq_some {s after : List Char} {name : String} :
    placeholder? s = some (name, after) ↔
      placeholders.valid name ∧ s = placeholders.source name ++ after := by
  simp only [placeholder?, Option.bind_eq_bind, Option.bind_eq_some_iff, dropStart?_eq_some,
    Option.pure_def, Option.some.injEq, Prod.mk.injEq, name?_eq_some]
  constructor
  · rintro ⟨rest, rfl, _, ⟨run, valid⟩, _, closed, rfl, rfl⟩
    refine ⟨valid, ?_⟩
    have whole : rest.takeWhile isWord ++ rest.dropWhile isWord = rest :=
      List.takeWhile_append_dropWhile
    rw [closed, ← run] at whole
    simp only [placeholders, List.append_assoc] at whole ⊢
    rw [whole]
  · rintro ⟨valid, rfl⟩
    have stop : isWord '}' = false := by decide
    refine ⟨name.toList ++ closing ++ after, by simp [placeholders], name, ⟨?_, valid⟩,
      after, ?_, rfl, rfl⟩
    · rw [List.append_assoc, List.takeWhile_append_of_pos valid.2]
      simp [closing, stop]
    · rw [List.append_assoc, List.dropWhile_append_of_pos valid.2]
      simp [closing, stop]

theorem placeholders_definite : placeholders.Definite where
  nonempty name _ empty := by simp [placeholders, opening] at empty
  unique a b rest rest' valid valid' same := by
    have first : placeholder? (placeholders.source a ++ rest) = some (a, rest) :=
      placeholder?_eq_some.mpr ⟨valid, rfl⟩
    have second : placeholder? (placeholders.source a ++ rest) = some (b, rest') :=
      placeholder?_eq_some.mpr ⟨valid', same⟩
    exact congrArg Prod.fst (Option.some.inj (first.symm.trans second))

/-! What is put in the place of each part. -/

def kept (vars : Variables) : Chunk WrittenBlock → List Char
  | .plain s => s
  | .token b => if (Condition.parse (String.ofList b.condition)).holds vars then b.body else []

def refused? : Chunk WrittenBlock → Option Warning
  | .plain _ => none
  | .token b =>
    match Condition.parse (String.ofList b.condition) with
    | .unrecognized text => some (.unrecognizedCondition text)
    | _ => none

/-- A placeholder becomes the display text of its variable, or stays. -/
def inserted (vars : Variables) : Chunk String → List Char
  | .plain s => s
  | .token name =>
    match vars.get? name with
    | some value => value.display.toList
    | none => placeholders.source name

def unknown? (vars : Variables) : Chunk String → Option Warning
  | .plain _ => none
  | .token name => if (vars.get? name).isNone then some (.undefinedVariable name) else none

theorem blockPieces_eq {s : List Char} {parts : List (Chunk WrittenBlock)}
    (cut : blocks.Cuts s parts) :
    blockPieces s = parts.flatMap (Chunk.items .plain fun b => .block b.condition b.body) := by
  refine cut.flatMap_eq blockPieces ?_ ?_ ?_
  · rw [blockPieces]
    split
    · next b found => exact absurd (Block.after_lt found) (by simp)
    · rfl
  · intro a rest valid
    have found : block? (blocks.source a ++ rest) = some ⟨a.condition, a.body, rest⟩ :=
      block?_eq_some.mpr ⟨a.blanks, valid, rfl⟩
    rw [blockPieces]
    split
    · next b other =>
      cases found.symm.trans other
      rfl
    · next none => cases found.symm.trans none
  · intro c rest free
    rw [blockPieces]
    split
    · next b found =>
      obtain ⟨blanks, valid, same⟩ := block?_eq_some.mp found
      exact absurd ⟨_, _, valid, same⟩ free
    · rfl

theorem pieces_source {name : String} (valid : placeholders.valid name) (rest : List Char) :
    pieces (placeholders.source name ++ rest) = .placeholder name :: pieces rest := by
  have found : placeholder? (placeholders.source name ++ rest) = some (name, rest) :=
    placeholder?_eq_some.mpr ⟨valid, rfl⟩
  rw [pieces]
  split
  · next other =>
    cases found.symm.trans other
    rfl
  · next none => cases found.symm.trans none

theorem pieces_cons {c : Char} {rest : List Char} (free : ¬ placeholders.StartsAt (c :: rest)) :
    pieces (c :: rest) = .plain c :: pieces rest := by
  rw [pieces]
  split
  · next found =>
    obtain ⟨valid, same⟩ := placeholder?_eq_some.mp found
    exact absurd ⟨_, _, valid, same⟩ free
  · rfl

theorem pieces_eq {s : List Char} {parts : List (Chunk String)} (cut : placeholders.Cuts s parts) :
    pieces s = parts.flatMap (Chunk.items .plain .placeholder) := by
  refine cut.flatMap_eq pieces ?_ (fun name rest valid => pieces_source valid rest)
    fun c rest free => pieces_cons free
  rw [pieces]
  split
  · next found => exact absurd (placeholder?_lt found) (by simp)
  · rfl

theorem resolveBlocks_eq (vars : Variables) {s : List Char} {parts : List (Chunk WrittenBlock)}
    (cut : blocks.Cuts s parts) :
    resolveBlocks vars s = ⟨parts.flatMap (kept vars), parts.filterMap refused?⟩ := by
  rw [resolveBlocks, blockPieces_eq cut, Warned.mapM_eq]
  ext1
  · simp only [Warned.value_bind, Warned.value_pure, ← List.flatMap_def, List.flatMap_assoc]
    refine List.flatMap_congr fun p _ => ?_
    cases p with
    | plain l => simp [Chunk.items, kept, BlockPiece.resolve, List.flatMap_map]
    | token b => simp [Chunk.items, kept, BlockPiece.resolve, Condition.evaluate]
  · simp only [Warned.warnings_bind, Warned.warnings_pure, List.append_nil, List.flatMap_assoc,
      List.filterMap_eq_flatMap_toList]
    refine List.flatMap_congr fun p _ => ?_
    cases p with
    | plain l => simp [Chunk.items, refused?, BlockPiece.resolve, List.flatMap_map]
    | token b =>
      simp only [Chunk.items, List.flatMap_cons, List.flatMap_nil, List.append_nil, refused?,
        BlockPiece.resolve, Warned.warnings_bind, Warned.warnings_pure, Condition.evaluate]
      cases Condition.parse (String.ofList b.condition) <;> rfl

theorem fill_eq (vars : Variables) {s : List Char} {parts : List (Chunk String)}
    (cut : placeholders.Cuts s parts) :
    fill vars s = ⟨parts.flatMap (inserted vars), parts.filterMap (unknown? vars)⟩ := by
  rw [fill, pieces_eq cut, Warned.mapM_eq]
  ext1
  · simp only [Warned.value_bind, Warned.value_pure, ← List.flatMap_def, List.flatMap_assoc]
    refine List.flatMap_congr fun p _ => ?_
    cases p with
    | plain l => simp [Chunk.items, inserted, Piece.resolve, List.flatMap_map]
    | token name =>
      cases value : vars.get? name <;>
        simp [Chunk.items, inserted, Piece.resolve, value, placeholders]
  · simp only [Warned.warnings_bind, Warned.warnings_pure, List.append_nil, List.flatMap_assoc,
      List.filterMap_eq_flatMap_toList]
    refine List.flatMap_congr fun p _ => ?_
    cases p with
    | plain l => simp [Chunk.items, unknown?, Piece.resolve, List.flatMap_map]
    | token name =>
      cases value : vars.get? name <;> simp [Chunk.items, unknown?, Piece.resolve, value, Warned.warn]

/-- A resolved template is the outcome of two replacements, each along the one cut of its text, and
the warnings follow the parts in their order. -/
theorem resolve_two_pass (vars : Variables) (text : String) :
    ∃ blockParts holes,
      blocks.Cuts text.toList blockParts ∧
      (∀ other, blocks.Cuts text.toList other → other = blockParts) ∧
      placeholders.Cuts (blockParts.flatMap (kept vars)) holes ∧
      (∀ other, placeholders.Cuts (blockParts.flatMap (kept vars)) other → other = holes) ∧
      resolve vars text = ⟨String.ofList (holes.flatMap (inserted vars)),
        blockParts.filterMap refused? ++ holes.filterMap (unknown? vars)⟩ := by
  obtain ⟨blockParts, cut⟩ := TokenForm.exists_cuts blocks_definite text.toList
  obtain ⟨holes, filled⟩ :=
    TokenForm.exists_cuts placeholders_definite (blockParts.flatMap (kept vars))
  refine ⟨blockParts, holes, cut, fun _ other => cut.unique blocks_definite other, filled,
    fun _ other => filled.unique placeholders_definite other, ?_⟩
  rw [resolve, resolveBlocks_eq vars cut]
  ext1
  · simp [fill_eq vars filled]
  · simp [fill_eq vars filled]

/-- Outer braces stay, and so does a block without an end. -/
example : resolve ((∅ : Variables).insert "a" (.text "b"))
      "\x7b\x7b\x7ba\x7d\x7d\x7d \x7b\x7b#if x\x7b\x7b/if\x7d\x7d" =
    ⟨"\x7bb\x7d \x7b\x7b#if x\x7b\x7b/if\x7d\x7d", []⟩ := by decide +kernel

end Template

end Scaffold
