import Scaffold.Pattern.Expr

/-!
Programs that recognize patterns: instructions with labels. A program is written from its end, so
that each part is given the label to go on at; a loop takes a label first and is filled in later.
-/
namespace Scaffold.Pattern

open Text

inductive Instruction where
  | accept
  | char (set : Ranges) (next : Nat)
  /-- Goes on at both labels and prefers the first. -/
  | split (first second : Nat)
  | look (l : Look) (next : Nat)
  | save (slot next : Nat)

structure Program where
  code : Array Instruction
  start : Nat

namespace Program

abbrev Write := StateM (Array Instruction)

def emit (i : Instruction) : Write Nat := fun code => (code.size, code.push i)

def fill (label : Nat) (i : Instruction) : Write Unit := modify (·.setIfInBounds label i)

def choice (greedy : Bool) (turn leave : Nat) : Instruction :=
  if greedy then .split turn leave else .split leave turn

/-- At least one turn: `turn` is written once, and after it there is a choice between itself and
`next`. Gives the label of the turn. -/
def loop (greedy : Bool) (turn : Nat → Write Nat) (next : Nat) : Write Nat := do
  let again ← emit .accept
  let start ← turn again
  fill again (choice greedy start next)
  return start

/-- Any number of turns. When a turn may be empty the first one is optional and the others repeat
it, so that the order of preference stays right. -/
def star (greedy nullable : Bool) (turn : Nat → Write Nat) (next : Nat) : Write Nat := do
  if nullable then
    let start ← loop greedy turn next
    emit (choice greedy start next)
  else
    let again ← emit .accept
    let start ← turn again
    fill again (choice greedy start next)
    return again

def times (turn : Nat → Write Nat) (next : Nat) : Nat → Write Nat
  | 0 => return next
  | n + 1 => do times turn (← turn next) n

/-- At most so many turns, each of which may be the last; `rest` is where the last of them goes on. -/
def upTo (greedy : Bool) (turn : Nat → Write Nat) (next rest : Nat) : Nat → Write Nat
  | 0 => return rest
  | n + 1 => do upTo greedy turn next (← emit (choice greedy (← turn rest) next)) n

def write (next : Nat) : Expr → Write Nat
  | .empty => return next
  | .char set => emit (.char set next)
  | .look l => emit (.look l next)
  | .seq e f => do write (← write next f) e
  | .alt e f => do
    let second ← write next f
    emit (.split (← write next e) second)
  | .rep min max greedy e =>
    let turn label := write label e
    match max with
    | some max => do times turn (← upTo greedy turn next next (max - min)) min
    | none =>
      if min = 0 then star greedy e.isNullable turn next
      else do times turn (← loop greedy turn next) (min - 1)
  | .group index e => do
    let close ← emit (.save (2 * index + 1) next)
    emit (.save (2 * index) (← write close e))

def ofExpr (e : Expr) : Program :=
  let (start, code) := (do write (← emit .accept) (.group 0 e) : Write Nat).run #[]
  ⟨code, start⟩

end Program

end Scaffold.Pattern
