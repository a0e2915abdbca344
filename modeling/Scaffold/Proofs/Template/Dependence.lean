import Scaffold.Proofs.Template.Agreement

/-! What a resolved template depends on: the variables that it looks at, and of a dropped block nothing
but its condition. -/
namespace Scaffold

open Text

namespace Condition

/-- The variables of a condition; a text that is none has no variables. -/
def names : Condition → List String
  | equality name _ | truthy name | falsy name => [name]
  | unrecognized _ => []

theorem holds_congr {vars vars' : Variables} {c : Condition}
    (same : ∀ name ∈ c.names, vars'.get? name = vars.get? name) : c.holds vars' = c.holds vars := by
  cases c with
  | equality name literal => rw [holds, holds, same name (.head _)]
  | truthy name => rw [holds, holds, Variables.isTruthy, Variables.isTruthy, same name (.head _)]
  | falsy name => rw [holds, holds, Variables.isTruthy, Variables.isTruthy, same name (.head _)]
  | unrecognized text => rfl

end Condition

namespace Template

/-! Variables. -/

/-- The variables that a text is resolved with: those of the conditions of its blocks, and those of the
placeholders in what the blocks leave. -/
inductive Reads (vars : Variables) (s : List Char) (name : String) : Prop where
  | condition {parts : List (Chunk WrittenBlock)} {b : WrittenBlock} (cut : blocks.Cuts s parts)
      (block : .token b ∈ parts) (named : name ∈ (Condition.parse (String.ofList b.condition)).names)
  | placeholder {parts : List (Chunk WrittenBlock)} {holes : List (Chunk String)}
      (cut : blocks.Cuts s parts) (filled : placeholders.Cuts (parts.flatMap (kept vars)) holes)
      (hole : .token name ∈ holes)

variable {vars vars' : Variables}

theorem resolveBlocks_congr {s : List Char}
    (same : ∀ name, Reads vars s name → vars'.get? name = vars.get? name) :
    resolveBlocks vars' s = resolveBlocks vars s := by
  obtain ⟨parts, cut⟩ := TokenForm.exists_cuts blocks_definite s
  have left : parts.flatMap (kept vars') = parts.flatMap (kept vars) := by
    refine List.flatMap_congr fun p member => ?_
    cases p with
    | plain l => rfl
    | token b => rw [kept, kept, Condition.holds_congr fun name named =>
        same name (.condition cut member named)]
  rw [resolveBlocks_eq vars' cut, resolveBlocks_eq vars cut, left]

theorem fill_congr {s : List Char} {holes : List (Chunk String)} (cut : placeholders.Cuts s holes)
    (same : ∀ name, .token name ∈ holes → vars'.get? name = vars.get? name) :
    fill vars' s = fill vars s := by
  rw [fill_eq vars' cut, fill_eq vars cut]
  ext1
  · refine List.flatMap_congr fun p member => ?_
    cases p with
    | plain l => rfl
    | token name => rw [inserted, inserted, same name member]
  · refine List.filterMap_congr fun p member => ?_
    cases p with
    | plain l => rfl
    | token name => rw [unknown?, unknown?, same name member]

theorem resolve_congr {text : String}
    (same : ∀ name, Reads vars text.toList name → vars'.get? name = vars.get? name) :
    resolve vars' text = resolve vars text := by
  obtain ⟨parts, cut⟩ := TokenForm.exists_cuts blocks_definite text.toList
  obtain ⟨holes, filled⟩ :=
    TokenForm.exists_cuts placeholders_definite (parts.flatMap (kept vars))
  have first := resolveBlocks_congr same
  have second := fill_congr filled fun name hole => same name (.placeholder cut filled hole)
  rw [resolve, resolve, first, resolveBlocks_eq vars cut]
  ext1 <;> simp [second]

/-! Dropped blocks. -/

/-- Parts of two texts that differ in nothing but the body of a block that is dropped. -/
inductive SameButDropped (vars : Variables) : Chunk WrittenBlock → Chunk WrittenBlock → Prop where
  | same (p : Chunk WrittenBlock) : SameButDropped vars p p
  | dropped {blanks condition body body' : List Char}
      (fails : (Condition.parse (String.ofList condition)).holds vars = false)
      (absent : ¬ blockEnd <:+: body') :
      SameButDropped vars (.token ⟨blanks, condition, body⟩) (.token ⟨blanks, condition, body'⟩)

/-- A block begins wherever its start stands, as long as closing braces and an end follow somewhere. -/
theorem startsAt_block {c : Char} (inside : List Char) {after : List Char} (blank : isBlank c = true)
    (ends : blockEnd <:+: after) :
    blocks.StartsAt (blockStart ++ c :: inside ++ closing ++ after) := by
  obtain ⟨blanks, spaced, whole, head⟩ := exists_trimStart (c :: inside)
  have full : blanks ≠ [] := by
    rintro rfl
    rw [List.nil_append] at whole
    rw [← whole] at head
    rw [head c rfl] at blank
    cases blank
  -- The first closing braces may come earlier, but what follows these follows them too.
  obtain ⟨⟨condition, more⟩, found⟩ :
      ∃ x, cut? closing (trimStart (c :: inside) ++ closing ++ after) = some x := by
    rw [← Option.ne_none_iff_exists']
    intro none
    exact cut?_eq_none.mp none _ _ rfl
  obtain ⟨same, closed⟩ := cut?_eq_some.mp found
  have early := closed.le_of_occurs same.symm
  obtain ⟨d, rest⟩ : after <:+ more := by
    refine List.suffix_of_suffix_length_le ⟨_, rfl⟩ ⟨condition ++ closing, same.symm⟩ ?_
    have sizes := congrArg List.length same
    simp only [List.length_append] at sizes
    omega
  obtain ⟨p, q, split⟩ := ends
  obtain ⟨⟨body, left⟩, found'⟩ : ∃ x, cut? blockEnd more = some x := by
    rw [← Option.ne_none_iff_exists']
    intro none
    exact cut?_eq_none.mp none (d ++ p) q (by rw [← rest, ← split]; simp)
  obtain ⟨same', ended⟩ := cut?_eq_some.mp found'
  refine ⟨⟨blanks, condition, body⟩, left, ⟨full, spaced, ?_, closed, ended⟩, ?_⟩
  · intro e first
    refine head e ?_
    cases shape : trimStart (c :: inside) with
    | nil =>
      rw [shape, List.length_nil, Nat.le_zero] at early
      rw [List.eq_nil_of_length_eq_zero early] at first
      cases first
    | cons f t =>
      rw [shape] at same
      cases condition with
      | nil => cases first
      | cons g condition =>
        rw [← first]
        exact congrArg some (List.cons.inj same).1
  · rw [List.append_assoc blockStart, List.append_assoc blockStart, whole, List.append_assoc blanks,
      List.append_assoc blanks, same, same']
    simp [blocks, WrittenBlock.source]

/-- Another body with an end makes no block begin in front of a block. -/
theorem startsAt_of_other_body {front blanks condition body body' rest rest' : List Char}
    (spaced : blanks ≠ [])
    (start : blocks.StartsAt (front ++ blocks.source ⟨blanks, condition, body'⟩ ++ rest')) :
    blocks.StartsAt (front ++ blocks.source ⟨blanks, condition, body⟩ ++ rest) := by
  obtain ⟨b, left, valid, same⟩ := start
  obtain ⟨c, more, shape⟩ := List.exists_cons_of_ne_nil valid.spaced
  have blank : isBlank c = true := valid.blank c (by rw [shape]; exact .head _)
  have size := List.length_pos_iff.mpr spaced
  have common : blockStart ++ [c] <+: front ++ (blockStart ++ blanks ++ condition) := by
    have first : blockStart ++ [c] <+: blocks.source b ++ left :=
      ⟨more ++ (b.condition ++ (closing ++ (b.body ++ (blockEnd ++ left)))),
        by simp [blocks, WrittenBlock.source, shape]⟩
    have second : front ++ (blockStart ++ blanks ++ condition) <+: blocks.source b ++ left :=
      ⟨closing ++ (body' ++ (blockEnd ++ rest')), by rw [← same]; simp [blocks, WrittenBlock.source]⟩
    refine List.prefix_of_prefix_length_le first second ?_
    simp only [List.length_append, List.length_cons, List.length_nil]
    omega
  obtain ⟨inside, whole⟩ := common
  have begun := startsAt_block inside blank (List.infix_append body blockEnd rest)
  have joined : front ++ blocks.source ⟨blanks, condition, body⟩ ++ rest =
      blockStart ++ c :: inside ++ closing ++ (body ++ blockEnd ++ rest) := by
    rw [List.append_cons, whole]
    simp [blocks, WrittenBlock.source]
  rwa [joined]

/-- In a stretch between blocks none begins if the bodies behind it change. -/
theorem not_startsAt_of_sameButDropped {s l l₁ l₂ : List Char}
    {parts parts' : List (Chunk WrittenBlock)} (cut : blocks.Cuts s (.plain l :: parts))
    (same : List.Forall₂ (SameButDropped vars) parts parts') (split : l = l₁ ++ l₂) (full : l₂ ≠ []) :
    ¬ blocks.StartsAt (l₂ ++ blocks.joined parts') := by
  have free := cut.leftmost [] l parts rfl l₁ l₂ split full
  intro start
  cases same with
  | nil => exact free start
  | @cons p p' rest rest' alike same =>
    rw [TokenForm.joined_cons, ← List.append_assoc] at start free
    cases alike with
    | same =>
      cases p with
      | plain m => exact cut.apart [] l m rest rfl
      | token b =>
        have spaced := (cut.valid b (.tail _ (.head _))).spaced
        exact free (startsAt_of_other_body spaced start)
    | dropped fails absent =>
      have spaced := (cut.valid _ (.tail _ (.head _))).spaced
      exact free (startsAt_of_other_body spaced start)

theorem cuts_of_sameButDropped {s : List Char} {parts parts' : List (Chunk WrittenBlock)}
    (cut : blocks.Cuts s parts) (same : List.Forall₂ (SameButDropped vars) parts parts') :
    blocks.Cuts (blocks.joined parts') parts' := by
  induction same generalizing s with
  | nil => exact .nil
  | @cons p p' _ _ alike same ih =>
    have rest := ih cut.tail
    cases alike with
    | dropped fails absent =>
      obtain ⟨spaced, blank, trimmed, closed, -⟩ := cut.valid _ (.head _)
      exact .token ⟨spaced, blank, trimmed, closed, isFirst_blockEnd absent⟩ rest
    | same =>
      cases p with
      | token b => exact .token (cut.valid b (.head _)) rest
      | plain l =>
        refine .plain ?_ (fun l₁ l₂ => not_startsAt_of_sameButDropped cut same) ?_ rest
        · rintro rfl
          exact cut.filled (.head _)
        · rintro m after rfl
          cases same with
          | cons alike same =>
            cases alike with
            | same => exact cut.apart [] l m _ rfl

theorem resolveBlocks_of_sameButDropped {s : List Char} {parts parts' : List (Chunk WrittenBlock)}
    (cut : blocks.Cuts s parts) (same : List.Forall₂ (SameButDropped vars) parts parts') :
    resolveBlocks vars (blocks.joined parts') = resolveBlocks vars s := by
  rw [resolveBlocks_eq vars cut, resolveBlocks_eq vars (cuts_of_sameButDropped cut same)]
  clear cut
  induction same with
  | nil => rfl
  | cons alike same ih =>
    obtain ⟨values, warnings⟩ := Warned.mk.inj ih
    cases alike with
    | same => ext1 <;> simp only [List.flatMap_cons, List.filterMap_cons, values, warnings]
    | dropped fails absent =>
      have nothing (blanks body : List Char) : kept vars (.token ⟨blanks, _, body⟩) = [] :=
        if_neg (Bool.not_eq_true _ ▸ fails)
      ext1
      · simp [values, nothing]
      · simp [List.filterMap_cons, warnings, refused?]

/-- A resolved template depends on the variables that it reads and on no others, and not on the bodies of
the blocks that are dropped. -/
theorem resolve_depends (vars : Variables) (text : String) :
    (∀ vars' : Variables, (∀ name, Reads vars text.toList name → vars'.get? name = vars.get? name) →
      resolve vars' text = resolve vars text) ∧
    (∀ name value, ¬ Reads vars text.toList name →
      resolve (vars.insert name value) text = resolve vars text) ∧
    ∀ parts parts', blocks.Cuts text.toList parts → List.Forall₂ (SameButDropped vars) parts parts' →
      resolve vars (String.ofList (blocks.joined parts')) = resolve vars text := by
  refine ⟨fun vars' same => resolve_congr same, ?_, ?_⟩
  · intro name value unread
    refine resolve_congr fun other read => ?_
    rw [Variables.get?_insert, if_neg]
    rintro rfl
    exact unread read
  · intro parts parts' cut same
    rw [resolve, resolve, String.toList_ofList, resolveBlocks_of_sameButDropped cut same]

end Template

end Scaffold
