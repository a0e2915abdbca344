import Scaffold.Proofs.Condition.Grammar

/-! One notion of the text and of the truth of a variable: conditions, blocks and placeholders agree on
them. -/
namespace Scaffold

open Text

namespace Condition

/-! Written forms. -/

namespace Form

theorem isTrimmed {form : Form} (valid : form.Valid) : IsTrimmed form.source := by
  have first {name : String} (named : IsName name) (rest : List Char) (c : Char)
      (head : (name.toList ++ rest).head? = some c) : isBlank c = false := by
    obtain ⟨d, more, whole, -⟩ := named.exists_cons
    rw [whole] at head
    cases head
    exact named.isBlank_eq_false (whole ▸ List.mem_cons_self)
  have last {name : String} (named : IsName name) (front : List Char) (c : Char)
      (last : (front ++ name.toList).getLast? = some c) : isBlank c = false := by
    rw [List.getLast?_append_of_ne_nil _ named.1] at last
    exact named.isBlank_eq_false (List.mem_of_getLast? last)
  cases form with
  | equality name before after quote literal =>
    refine ⟨fun c head => ?_, fun c last => ?_⟩
    · rw [source_equality] at head
      exact first valid.1 _ c head
    · rw [source, List.getLast?_concat] at last
      cases last
      exact isBlank_quote valid.2.2.2.1
  | truthy name =>
    exact ⟨fun c head => first valid [] c (by rwa [List.append_nil]), last valid []⟩
  | falsy blanks name =>
    refine ⟨fun c head => ?_, last valid.2 ('!' :: blanks)⟩
    cases head
    decide

end Form

theorem parse_source {form : Form} (valid : form.Valid) :
    parse (String.ofList form.source) = form.condition := by
  rw [parse, String.toList_ofList, trim_of_isTrimmed (Form.isTrimmed valid), ofTrimmed_source valid]

theorem parse_trimStart (s : List Char) :
    parse (String.ofList (trimStart s)) = parse (String.ofList s) := by
  obtain ⟨before, blank, whole, -⟩ := exists_trimStart s
  have nothing : Blank [] := nofun
  have same := trim_append (trimStart s) blank nothing
  rw [List.append_nil, ← whole] at same
  rw [parse, parse, String.toList_ofList, String.toList_ofList, same]

end Condition

namespace Template

/-! Placeholders. -/

theorem mem_of_block_startsAt {s : List Char} (start : blocks.StartsAt s) : '#' ∈ s := by
  obtain ⟨b, rest, -, rfl⟩ := start
  simp [blocks, WrittenBlock.source, blockStart]

/-- There is no block in a placeholder. -/
theorem blocks_cuts_placeholder {name : String} (named : Condition.IsName name) :
    blocks.Cuts (placeholders.source name) [.plain (placeholders.source name)] := by
  refine .ofPlain (placeholders_definite.nonempty name named) fun l₁ l₂ split _ start => ?_
  have member : '#' ∈ placeholders.source name := by
    rw [split]
    exact List.mem_append_right l₁ (mem_of_block_startsAt start)
  simp only [placeholders, opening, closing, List.mem_append, List.mem_cons, List.not_mem_nil,
    or_false] at member
  rcases member with ((opened | opened) | word) | closed | closed
  · exact absurd opened (by decide)
  · exact absurd opened (by decide)
  · exact absurd (named.2 _ word) (by decide)
  · exact absurd closed (by decide)
  · exact absurd closed (by decide)

theorem fill_nil (vars : Variables) : fill vars [] = pure [] := by
  rw [fill_eq vars .nil]
  rfl

/-- A placeholder alone becomes the display text of its variable. -/
theorem resolve_placeholder (vars : Variables) {name : String} (named : Condition.IsName name) :
    resolve vars (String.ofList (placeholders.source name)) =
      match vars.get? name with
      | some value => pure value.display
      | none => ⟨String.ofList (placeholders.source name), [.undefinedVariable name]⟩ := by
  rw [resolve, String.toList_ofList, resolveBlocks_eq vars (blocks_cuts_placeholder named)]
  have cut : placeholders.Cuts (placeholders.source name) [.token name] := .ofToken named
  have filled := fill_eq vars cut
  cases found : vars.get? name with
  | none => ext1 <;> simp [kept, refused?, filled, inserted, unknown?, found]
  | some value => ext1 <;> simp [kept, refused?, filled, inserted, unknown?, found]

/-! Blocks. -/

theorem isFirst_closing {condition : List Char} (absent : ¬ closing <:+: condition)
    (apart : condition.getLast? ≠ some '}') : IsFirst closing condition := by
  refine isFirst_of_absent absent fun d r whole first last _ ends => ?_
  obtain ⟨c, d, rfl⟩ := List.exists_cons_of_ne_nil first
  obtain ⟨e, r, rfl⟩ := List.exists_cons_of_ne_nil last
  have single : d = [] := by
    have sizes := congrArg List.length whole
    simp only [closing, List.length_cons, List.length_append, List.length_nil] at sizes
    exact List.eq_nil_of_length_eq_zero (by omega)
  subst single
  obtain ⟨front, rfl⟩ := ends
  cases whole
  exact apart List.getLast?_concat

/-- The end of a block cannot begin before it has come to its end. -/
theorem isFirst_blockEnd {body : List Char} (absent : ¬ blockEnd <:+: body) : IsFirst blockEnd body := by
  refine isFirst_of_absent absent fun d r whole first last begins _ => ?_
  have borderless : ∀ n < 7, 0 < n → (blockEnd.drop n).isPrefixOf blockEnd = false := by decide
  have sizes := congrArg List.length whole
  rw [List.length_append] at sizes
  have size : blockEnd.length = 7 := rfl
  have left := List.length_pos_iff.mpr first
  have right := List.length_pos_iff.mpr last
  have border := borderless d.length (by omega) left
  rw [whole, List.drop_left, ← whole, List.isPrefixOf_iff_prefix.mpr begins] at border
  cases border

/-- A condition and a body as a block. -/
def blockOf (condition body : List Char) : List Char :=
  blockStart ++ ' ' :: condition ++ closing ++ body ++ blockEnd

theorem exists_written_block {condition body : List Char} (absent : ¬ closing <:+: condition)
    (apart : condition.getLast? ≠ some '}') (absent' : ¬ blockEnd <:+: body) :
    ∃ blanks, blocks.valid ⟨blanks, trimStart condition, body⟩ ∧
      blockOf condition body = blocks.source ⟨blanks, trimStart condition, body⟩ := by
  obtain ⟨blanks, blank, whole, head⟩ := exists_trimStart condition
  have inside : ¬ closing <:+: trimStart condition := by
    rintro ⟨p, q, split⟩
    exact absent ⟨blanks ++ p, q, by rw [whole, ← split]; simp⟩
  have last : (trimStart condition).getLast? ≠ some '}' := by
    intro last
    rw [whole, List.getLast?_append, last] at apart
    exact apart rfl
  refine ⟨' ' :: blanks, ⟨List.cons_ne_nil _ _, ?_, head, isFirst_closing inside last,
    isFirst_blockEnd absent'⟩, ?_⟩
  · intro c member
    rcases List.mem_cons.mp member with rfl | member
    · decide
    · exact blank c member
  · conv_lhs => rw [blockOf, whole]
    simp [blocks, WrittenBlock.source]

theorem filterMap_refused? (b : WrittenBlock) : [Chunk.token b].filterMap refused? =
    (Condition.parse (String.ofList b.condition)).warnings := by
  rw [List.filterMap_cons, refused?]
  cases Condition.parse (String.ofList b.condition) <;> rfl

/-- A block alone is its body with the placeholders filled, or nothing. -/
theorem resolve_block (vars : Variables) {condition body : List Char}
    (absent : ¬ closing <:+: condition) (apart : condition.getLast? ≠ some '}')
    (absent' : ¬ blockEnd <:+: body) :
    resolve vars (String.ofList (blockOf condition body)) = do
      let keep ← (Condition.parse (String.ofList condition)).evaluate vars
      if keep then String.ofList <$> fill vars body else return "" := by
  obtain ⟨blanks, valid, whole⟩ := exists_written_block absent apart absent'
  rw [resolve, String.toList_ofList, whole, resolveBlocks_eq vars (.ofToken valid), filterMap_refused?,
    List.flatMap_singleton, kept, Condition.parse_trimStart, Condition.evaluate]
  cases holds : (Condition.parse (String.ofList condition)).holds vars with
  | true => ext1 <;> simp
  | false => ext1 <;> simp [fill_nil]

end Template

/-! Truth. -/

namespace Binary64

theorem isZero_iff {x : Binary64} : x.isZero = true ↔ x = ofMagnitude false 0 ∨ x = ofMagnitude true 0 := by
  obtain ⟨bits⟩ := x
  have place : signPlace = 9223372036854775808 := rfl
  have bound := bits.toNat_lt
  rw [isZero, decide_eq_true_iff, magnitude, place]
  constructor
  · intro zero
    change bits.toNat % 9223372036854775808 = 0 at zero
    have sign : bits.toNat = 0 ∨ bits.toNat = 9223372036854775808 := by omega
    exact sign.imp (fun positive => congrArg mk (UInt64.toNat_inj.mp positive))
      fun negative => congrArg mk (UInt64.toNat_inj.mp negative)
  · rintro (zero | zero) <;> cases zero <;> rfl

end Binary64

theorem Value.isTruthy_eq_false_iff {value : Value} : value.isTruthy = false ↔
    value = .flag false ∨
      (∃ x, value = .number x ∧
        (x.isNaN = true ∨ x = .ofMagnitude false 0 ∨ x = .ofMagnitude true 0)) ∨
      ∃ s ∈ ["", "false", "none"], value = .text s := by
  cases value with
  | flag b => cases b <;> simp [isTruthy]
  | number x =>
    simp only [isTruthy, ← Binary64.isZero_iff]
    cases zero : x.isZero <;> cases nan : x.isNaN <;> simp [zero, nan]
  | text s => simp [isTruthy, or_iff_not_imp_left]

namespace Condition

theorem evaluate_equality (vars : Variables) {name literal : String} {before after : List Char}
    {quote : Char} (valid : (Form.equality name before after quote literal).Valid) :
    ((parse (String.ofList (Form.equality name before after quote literal).source)).evaluate vars).value =
        true ↔
      vars.get? name ≠ none ∧
        (Template.resolve vars (String.ofList (Template.placeholders.source name))).value = literal := by
  rw [parse_source valid, Template.resolve_placeholder vars valid.1]
  cases found : vars.get? name <;> simp [Form.condition, evaluate, holds, found]

theorem evaluate_truthy (vars : Variables) {name : String} (named : IsName name) :
    ((parse name).evaluate vars).value = vars.isTruthy name := by
  have valid : (Form.truthy name).Valid := named
  have read := parse_source valid
  rw [Form.source, String.ofList_toList] at read
  rw [read]
  rfl

end Condition

namespace Template

open Condition

/-- On every store, a comparison holds exactly if the variable is there and its placeholder becomes the
literal, and a negation is the negation of the variable's truth, which a variable lacks exactly if it is
missing or one of the values that stand for nothing. A condition in double braces is what it is without
them, and a block is its body with the placeholders filled, if its condition holds, and else nothing. -/
theorem conditions_agree (vars : Variables) :
    (∀ name before after quote literal, (Form.equality name before after quote literal).Valid →
      (((parse (String.ofList (Form.equality name before after quote literal).source)).evaluate
          vars).value = true ↔
        vars.get? name ≠ none ∧
          (resolve vars (String.ofList (placeholders.source name))).value = literal)) ∧
    (∀ name blanks, IsName name → Blank blanks →
      ((parse (String.ofList (Form.falsy blanks name).source)).evaluate vars).value =
        !((parse name).evaluate vars).value) ∧
    (∀ name, IsName name → (((parse name).evaluate vars).value = false ↔
      vars.get? name = none ∨ vars.get? name = some (.flag false) ∨
        (∃ x, vars.get? name = some (.number x) ∧
          (x.isNaN = true ∨ x = .ofMagnitude false 0 ∨ x = .ofMagnitude true 0)) ∨
        ∃ s ∈ ["", "false", "none"], vars.get? name = some (.text s))) ∧
    ∀ condition body, ¬ closing <:+: condition → condition.getLast? ≠ some '}' →
      ¬ blockEnd <:+: body →
      (parseWhen (String.ofList (opening ++ condition ++ closing))).evaluate vars =
          (parse (String.ofList condition)).evaluate vars ∧
        resolve vars (String.ofList (blockOf condition body)) = do
          let keep ← (parse (String.ofList condition)).evaluate vars
          if keep then String.ofList <$> fill vars body else return "" := by
  refine ⟨?_, ?_, ?_, ?_⟩
  · intro name before after quote literal valid
    exact evaluate_equality vars valid
  · intro name blanks named blank
    have valid : (Form.falsy blanks name).Valid := ⟨blank, named⟩
    rw [evaluate_truthy vars named, parse_source valid]
    rfl
  · intro name named
    rw [evaluate_truthy vars named, Variables.isTruthy]
    cases found : vars.get? name with
    | none => simp
    | some value => simp [Value.isTruthy_eq_false_iff]
  · intro condition body absent apart absent'
    refine ⟨?_, resolve_block vars absent apart absent'⟩
    have nothing : Blank [] := nofun
    have bare := parseWhen_braced (String.ofList condition) nothing nothing
    rw [String.toList_ofList, List.nil_append, List.append_nil] at bare
    rw [bare]

end Template

end Scaffold
