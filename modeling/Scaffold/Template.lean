import Scaffold.Condition

/-!
Templates. A text is resolved in two passes: conditional blocks are kept or dropped, then the
placeholders of what is left give way to the display texts of their variables. Inserted text is not
looked at again, and a placeholder without a variable stays.
-/
namespace Scaffold.Template

open Text

def blockStart : List Char := "\x7b\x7b#if".toList
def blockEnd : List Char := "\x7b\x7b/if\x7d\x7d".toList
def opening : List Char := ['{', '{']
def closing : List Char := ['}', '}']

/-- A conditional block: its condition, its body and the text after it. -/
structure Block where
  condition : List Char
  body : List Char
  after : List Char

/-- The block that begins a text: its condition ends at the first closing braces and its body at the
first end of a block, so that blocks do not nest. -/
def block? (s : List Char) : Option Block := do
  let s ← dropStart? blockStart s
  if !(s.head?.any isBlank) then none
  let (condition, s) ← cut? closing (trimStart s)
  let (body, after) ← cut? blockEnd s
  return ⟨condition, body, after⟩

def placeholder? (s : List Char) : Option (String × List Char) := do
  let s ← dropStart? opening s
  let name ← Condition.name? (s.takeWhile isWord)
  let after ← dropStart? closing (s.dropWhile isWord)
  return (name, after)

inductive BlockPiece where
  | plain (c : Char)
  | block (condition body : List Char)

inductive Piece where
  | plain (c : Char)
  | placeholder (name : String)

theorem length_of_dropStart? {start s rest : List Char} (h : dropStart? start s = some rest) :
    s.length = start.length + rest.length := by
  induction start generalizing s with
  | nil => simp_all [dropStart?]
  | cons a start ih =>
    cases s with
    | nil => simp [dropStart?] at h
    | cons b s =>
      simp only [dropStart?] at h
      split at h
      · have := ih h; simp only [List.length_cons]; omega
      · cases h

theorem length_of_cut? {needle s before after : List Char}
    (h : cut? needle s = some (before, after)) :
    s.length = before.length + needle.length + after.length := by
  induction s generalizing before with
  | nil =>
    unfold cut? at h
    split at h
    · next rest hd => have := length_of_dropStart? hd; simp_all
    · cases h
  | cons c s ih =>
    unfold cut? at h
    split at h
    · next rest hd => have := length_of_dropStart? hd; simp_all
    · simp only [Option.map_eq_some_iff, Prod.mk.injEq, Prod.exists] at h
      obtain ⟨b, a, hc, rfl, rfl⟩ := h
      have := ih hc
      simp only [List.length_cons]; omega

theorem Block.after_lt {s : List Char} {b : Block} (h : block? s = some b) :
    b.after.length < s.length := by
  simp only [block?, Option.bind_eq_bind, Option.bind_eq_some_iff] at h
  obtain ⟨r, hr, h⟩ := h
  split at h
  · cases h
  · simp only [Option.pure_def, Option.bind_eq_some_iff, Prod.exists, Option.some.injEq] at h
    obtain ⟨_, _, hc, _, _, hb, rfl⟩ := h
    have h1 := length_of_dropStart? hr
    have h2 := length_of_cut? hc
    have h3 := length_of_cut? hb
    have h4 : (trimStart r).length ≤ r.length := List.dropWhile_sublist _ |>.length_le
    have h5 : 0 < blockStart.length := by decide
    simp only; omega

theorem placeholder?_lt {s : List Char} {name : String} {after : List Char}
    (h : placeholder? s = some (name, after)) : after.length < s.length := by
  simp only [placeholder?, Option.bind_eq_bind, Option.bind_eq_some_iff, Option.pure_def,
    Option.some.injEq, Prod.mk.injEq] at h
  obtain ⟨r, hr, _, _, _, ha, rfl, rfl⟩ := h
  have h1 := length_of_dropStart? hr
  have h2 := length_of_dropStart? ha
  have h3 : (r.dropWhile isWord).length ≤ r.length := List.dropWhile_sublist _ |>.length_le
  simp only [opening, closing, List.length_cons, List.length_nil] at h1 h2
  omega

def blockPieces (s : List Char) : List BlockPiece :=
  match _ : block? s with
  | some b => .block b.condition b.body :: blockPieces b.after
  | none =>
    match s with
    | [] => []
    | c :: s => .plain c :: blockPieces s
termination_by s.length
decreasing_by
  · exact Block.after_lt ‹_›
  · simp

def pieces (s : List Char) : List Piece :=
  match _ : placeholder? s with
  | some (name, after) => .placeholder name :: pieces after
  | none =>
    match s with
    | [] => []
    | c :: s => .plain c :: pieces s
termination_by s.length
decreasing_by
  · exact placeholder?_lt ‹_›
  · simp

def BlockPiece.resolve (vars : Variables) : BlockPiece → Warned (List Char)
  | plain c => pure [c]
  | block condition body => do
    let keep ← (Condition.parse (String.ofList condition)).evaluate vars
    return if keep then body else []

def Piece.resolve (vars : Variables) : Piece → Warned (List Char)
  | plain c => pure [c]
  | placeholder name =>
    match vars.get? name with
    | some value => pure value.display.toList
    | none => do
      Warned.warn (.undefinedVariable name)
      return opening ++ name.toList ++ closing

def resolveBlocks (vars : Variables) (s : List Char) : Warned (List Char) := do
  return ((← (blockPieces s).mapM (·.resolve vars))).flatten

def fill (vars : Variables) (s : List Char) : Warned (List Char) := do
  return ((← (pieces s).mapM (·.resolve vars))).flatten

def resolve (vars : Variables) (text : String) : Warned String := do
  return String.ofList (← fill vars (← resolveBlocks vars text.toList))

end Scaffold.Template
