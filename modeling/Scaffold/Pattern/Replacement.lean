import Scaffold.Pattern.Match

/-!
Replacing matches. In a replacement `$$` is a dollar sign, `$&` the match, and the dollar sign with a
backquote or an apostrophe the text before or after the match. A dollar sign with one or two digits
is a group that the pattern has, and with a name in angle brackets a named group, when the pattern
names any. Every other dollar sign stands for itself. Inserted text is not looked at again.
-/
namespace Scaffold.Pattern

open Text

inductive Reference where
  | plain (c : Char)
  | whole
  | before
  | after
  | group (index : Nat)
  | named (name : List Char)
  deriving DecidableEq, Repr

/-- What of a pattern decides how references are read. -/
structure GroupInfo where
  count : Nat
  hasNames : Bool

namespace Reference

def digit? (c : Char) : Option Nat :=
  if c.isDigit then some (c.toNat - '0'.toNat) else none

def isGroup (info : GroupInfo) (index : Nat) : Bool :=
  1 ≤ index && index ≤ info.count

/-- A group with a number of two digits, or else of one. -/
def number? (info : GroupInfo) : List Char → Option (Nat × List Char)
  | [] => none
  | a :: s => do
    let one ← digit? a
    let two? : Option (Nat × List Char) :=
      match s with
      | b :: s => (digit? b).bind fun d =>
        if isGroup info (10 * one + d) then some (10 * one + d, s) else none
      | [] => none
    two? <|> if isGroup info one then some (one, s) else none

def read? (info : GroupInfo) : List Char → Option (Reference × List Char)
  | '$' :: s => some (plain '$', s)
  | '&' :: s => some (whole, s)
  | '\x60' :: s => some (before, s)
  | '\'' :: s => some (after, s)
  | '<' :: s =>
    if info.hasNames && s.contains '>' then
      some (named (s.takeWhile (· ≠ '>')), (s.dropWhile (· ≠ '>')).drop 1)
    else none
  | s => (number? info s).map fun (index, rest) => (group index, rest)

theorem number?_lt {info : GroupInfo} {s rest : List Char} {n : Nat}
    (h : number? info s = some (n, rest)) : rest.length < s.length := by
  cases s with
  | nil => simp [number?] at h
  | cons a s =>
    simp only [number?, Option.bind_eq_bind, Option.bind_eq_some_iff] at h
    obtain ⟨one, _, h⟩ := h
    simp only [Option.orElse_eq_orElse, Option.orElse_eq_or, Option.or_eq_some_iff] at h
    rcases h with h | ⟨_, h⟩
    · cases s with
      | nil => simp at h
      | cons b s =>
        simp only [Option.bind_eq_some_iff] at h
        obtain ⟨d, _, h⟩ := h
        split at h
        · cases h; simp only [List.length_cons]; omega
        · cases h
    · split at h
      · cases h; simp
      · cases h

theorem read?_lt {info : GroupInfo} {s rest : List Char} {r : Reference}
    (h : read? info s = some (r, rest)) : rest.length < s.length := by
  unfold read? at h
  split at h
  · cases h; simp
  · cases h; simp
  · cases h; simp
  · cases h; simp
  · split at h
    · next s _ =>
      cases h
      have : (s.dropWhile (· ≠ '>')).length ≤ s.length := (List.dropWhile_sublist _).length_le
      simp only [List.length_drop, List.length_cons]
      omega
    · cases h
  · simp only [Option.map_eq_some_iff, Prod.mk.injEq, Prod.exists] at h
    obtain ⟨n, _, hn, _, rfl⟩ := h
    exact number?_lt hn

def tokens (info : GroupInfo) (s : List Char) : List Reference :=
  match s with
  | [] => []
  | c :: s =>
    if c = '$' then
      match _ : read? info s with
      | some (r, rest) => r :: tokens info rest
      | none => plain '$' :: tokens info s
    else plain c :: tokens info s
termination_by s.length
decreasing_by
  all_goals simp only [List.length_cons]
  · have := read?_lt ‹_›; omega
  · omega
  · omega

def expand (p : Pattern) {s : List Char} (m : Match s) : Reference → List Char
  | plain c => [c]
  | whole => m.whole.text
  | before => m.whole.before
  | after => m.whole.after
  | group index => m.groupText index
  | named name =>
    match p.names.lookup (String.ofList name) with
    | some index => m.groupText index
    | none => []

end Reference

def info (p : Pattern) : GroupInfo := ⟨p.groupCount, !p.names.isEmpty⟩

def expandAll (p : Pattern) {s : List Char} (m : Match s) (refs : List Reference) : List Char :=
  refs.flatMap (·.expand p m)

def substitute {s : List Char} (new : Match s → List Char) (index : Nat) :
    List (Match s) → List Char
  | [] => s.drop index
  | m :: ms =>
    (s.drop index).take (m.whole.start - index) ++ new m ++ substitute new m.whole.stop ms

def replaceAll (p : Pattern) (replacement text : String) : String :=
  let refs := Reference.tokens p.info replacement.toList
  String.ofList (substitute (fun m => p.expandAll m refs) 0 (p.findAll text.toList))

end Scaffold.Pattern
