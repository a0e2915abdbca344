import Scaffold.Pattern.ByteSequence
import Scaffold.Pattern.Simplify
import Std.Data.HashMap

/-!
How much room a pattern takes. The room is that of a machine over bytes with one state for each step,
written once for texts from left to right and once for texts from right to left. A pattern whose
machines take more room than the limit is refused, so that counts cannot make it arbitrarily large.
-/
namespace Scaffold.Pattern

open Text

structure Room where
  states : Nat
  /-- Entries for a range of bytes each. -/
  transitions : Nat
  choices : Nat

namespace Room

def bytes (r : Room) : Nat := 32 * r.states + 8 * r.transitions + 4 * r.choices

def limit : Nat := 10 * Nat.pow 2 20

def isFull (r : Room) : Bool := limit < r.bytes

def addStates (r : Room) (n : Nat) : Room := { r with states := r.states + n }

def addTable (r : Room) (n : Nat) : Room :=
  { r with states := r.states + 1, transitions := r.transitions + n }

def addChoices (r : Room) (n : Nat) : Room := { r with choices := r.choices + n }

end Room

/-! Sets of characters beyond ASCII. Equal states are written once, as far as a memory with a fixed
number of places remembers them: an entry takes the place of an earlier one with the same number. -/

structure Step where
  range : ByteRange
  next : Nat
  deriving DecidableEq

def hashStart : UInt64 := 14695981039346656037

def mixHash (h : UInt64) (n : Nat) : UInt64 :=
  (h ^^^ n.toUInt64) * 1099511628211

abbrev Memory (κ : Type) := Std.HashMap Nat (κ × Nat)

def Memory.recall? {κ : Type} [DecidableEq κ] (m : Memory κ) (place : Nat) (key : κ) : Option Nat :=
  match m[place]? with
  | some (k, number) => if k = key then some number else none
  | none => none

namespace Forward

def places : Nat := 10000

def place (steps : List Step) : Nat :=
  (steps.foldl (fun h s =>
    mixHash (mixHash (mixHash h s.range.first.toNat) s.range.last.toNat) s.next) hashStart).toNat % places

/-- A state whose last step does not know yet where it goes on. -/
structure Draft where
  steps : List Step
  last : Option ByteRange

structure Writing where
  room : Room
  memory : Memory (List Step)
  drafts : List Draft

def Draft.close (d : Draft) (next : Nat) : List Step :=
  match d.last with
  | none => d.steps
  | some range => d.steps ++ [⟨range, next⟩]

def write (w : Writing) (steps : List Step) : Writing × Nat :=
  let place := place steps
  match w.memory.recall? place steps with
  | some number => (w, number)
  | none =>
    let number := w.room.states
    ({ w with
      room := w.room.addTable steps.length
      memory := w.memory.insert place (steps, number) }, number)

def writeAll (w : Writing) (target : Nat) : List Draft → Writing × Nat
  | [] => (w, target)
  | d :: ds =>
    let (w, next) := writeAll w target ds
    write w (d.close next)

def shared : ByteSequence → List Draft → Nat
  | range :: rest, d :: ds => if d.last = some range then shared rest ds + 1 else 0
  | _, _ => 0

def draftsOf : ByteSequence → List Draft
  | [] => []
  | range :: rest => ⟨[], some range⟩ :: draftsOf rest

def addSequence (target : Nat) (w : Writing) (s : ByteSequence) : Writing :=
  let count := shared s w.drafts
  let (w, next) := writeAll w target (w.drafts.drop (count + 1))
  let changed := (w.drafts.drop count).head?.map fun d => (⟨d.close next, s[count]?⟩ : Draft)
  { w with drafts := w.drafts.take count ++ changed.toList ++ draftsOf (s.drop (count + 1)) }

/-- The states of a set from left to right: sequences share their beginnings and their ends. -/
def addSet (r : Room) (sequences : List ByteSequence) : Room :=
  let target := r.states
  let w := sequences.foldl (addSequence target) ⟨r.addStates 1, ∅, [⟨[], none⟩]⟩
  (writeAll w target w.drafts).1.room

end Forward

namespace Backward

def places : Nat := 1000

def place (s : Step) : Nat :=
  (mixHash (mixHash (mixHash hashStart s.next) s.range.first.toNat) s.range.last.toNat).toNat % places

def addRange (w : Room × Memory Step × Nat) (range : ByteRange) : Room × Memory Step × Nat :=
  let (room, memory, next) := w
  let step : Step := ⟨range, next⟩
  let place := place step
  match memory.recall? place step with
  | some number => (room, memory, number)
  | none => (room.addStates 1, memory.insert place (step, room.states), room.states)

def addSequence (target : Nat) (w : Room × Memory Step) (s : ByteSequence) : Room × Memory Step :=
  let (room, memory, _) := s.foldl addRange (w.1, w.2, target)
  (room.addChoices 1, memory)

/-- The states of a set from right to left: sequences share their first bytes only. -/
def addSet (r : Room) (sequences : List ByteSequence) : Room :=
  (sequences.foldl (addSequence (r.states + 1)) (r.addStates 2, ∅)).1

end Backward

/-! Texts as alternatives. -/

/-- What is left of texts at a place: their rests, in groups that a text which ends here divides. -/
structure Fork where
  ended : List (List (List UInt8))
  running : List (List UInt8)

/-- Texts that end where others have ended and nothing came between them count once. -/
def Fork.add (f : Fork) (rest : List UInt8) : Fork :=
  if rest.isEmpty then
    if f.running.isEmpty && !f.ended.isEmpty && f.ended.all List.isEmpty then f
    else ⟨f.ended ++ [f.running], []⟩
  else { f with running := f.running ++ [rest] }

def Fork.groups (f : Fork) : List (List (List UInt8)) := f.ended ++ [f.running]

def byFirst (texts : List (List UInt8)) : List (UInt8 × List (List UInt8)) :=
  texts.foldl (fun table text =>
    match text with
    | [] => table
    | b :: rest =>
      if table.any (·.1 = b) then table.map fun (c, rests) => (c, if c = b then rests ++ [rest] else rests)
      else table ++ [(b, [rest])]) []

def addFork (r : Room) : Nat → List (List UInt8) → Room
  | 0, _ => r
  | fuel + 1, texts =>
    if texts.all List.isEmpty then r
    else
      let groups := (texts.foldl Fork.add ⟨[], []⟩).groups
      let tables := groups.map byFirst
      let used := tables.filter fun table => !table.isEmpty
      let r := used.foldl (fun r table =>
        if table.length = 1 then r.addStates 1 else r.addTable table.length) r
      let r := (r.addStates 1).addChoices (used.length + groups.length - 1)
      used.foldl (fun r table => table.foldl (fun r (_, rests) => addFork r fuel rests) r) r

/-! Expressions. -/

/-- An expression as far as its room depends on it. -/
inductive Layout where
  | step
  | text (length : Nat)
  | table (ranges : Nat)
  | set (sequences : List ByteSequence)
  | seq (first second : Layout)
  | alt (first rest : Layout)
  | fork (texts : List (List UInt8))
  | rep (min : Nat) (max : Option Nat) (nullable : Bool) (e : Layout)
  | group (e : Layout)

def Layout.ofSet (set : Ranges) : Layout :=
  match set.member? with
  | some n => .text (Char.ofNat n).utf8Size
  | none =>
    if set.toList.all fun (_, last) => last < 128 then .table set.bounds.size
    else .set (ByteSequence.ofSet set)

def Expr.text? (e : Expr) : Option (List UInt8) :=
  match e.parts with
  | [.text cs] => some (cs.flatMap String.utf8EncodeChar)
  | _ => none

mutual

def Layout.ofExpr : Expr → Layout
  | .empty | .look _ => .step
  | .char members => .ofSet members
  | .seq e f => .seq (.ofExpr e) (.ofExpr f)
  | .alt e f =>
    match (Expr.branches (.alt e f)).mapM Expr.text? with
    | some texts => .fork texts
    | none => .alt (.ofExpr e) (.ofRest f)
  | .rep min max _ e => .rep min max e.isNullable (.ofExpr e)
  | .group _ e => .group (.ofExpr e)

def Layout.ofRest : Expr → Layout
  | .alt e f => .alt (.ofExpr e) (.ofRest f)
  | e => .ofExpr e

end

/-- What is written so far, and whether its end is a choice, to which what follows adds an entry. -/
structure Written where
  room : Room
  isOpen : Bool

namespace Written

def link (w : Written) : Room := if w.isOpen then w.room.addChoices 1 else w.room

end Written

structure Direction where
  backward : Bool
  groups : Bool

def addTurns (turn : Room → Written) (w : Written) : Nat → Written
  | 0 => w
  | n + 1 => if w.room.isFull then w else addTurns turn (turn w.link) n

def addExactly (turn : Room → Written) (r : Room) : Nat → Written
  | 0 => ⟨r.addStates 1, false⟩
  | n + 1 => addTurns turn (turn r) n

def addOptional (turn : Room → Written) (w : Written) : Nat → Written
  | 0 => w
  | n + 1 =>
    if w.room.isFull then w
    else addOptional turn (turn ((w.link.addStates 1).addChoices 2)) n

def addRepetition (turn : Room → Written) (nullable : Bool) (r : Room) (min : Nat) :
    Option Nat → Written
  | none =>
    if min = 0 then
      if nullable then ⟨((turn r).link.addStates 3).addChoices 4, false⟩
      else ⟨((turn (r.addStates 1)).link).addChoices 1, true⟩
    else
      let last := if min = 1 then turn r else turn (addExactly turn r (min - 1)).link
      ⟨(last.link.addStates 1).addChoices 1, true⟩
  | some max =>
    if min = max then addExactly turn r min
    else if min = 0 ∧ max = 1 then ⟨((turn (r.addStates 1)).link.addStates 1).addChoices 2, false⟩
    else
      let start := addExactly turn r min
      let w := addOptional turn { start with room := start.room.addStates 1 } (max - min)
      ⟨w.link, false⟩

mutual

def addLayout (d : Direction) : Layout → Room → Written
  | .step, r => ⟨r.addStates 1, false⟩
  | .text length, r => ⟨r.addStates length, false⟩
  | .table ranges, r => ⟨(r.addStates 1).addTable ranges, false⟩
  | .set sequences, r =>
    ⟨if d.backward then Backward.addSet r sequences else Forward.addSet r sequences, false⟩
  | .seq e f, r =>
    if d.backward then addLayout d e (addLayout d f r).link
    else addLayout d f (addLayout d e r).link
  | .alt e f, r => addRest d true f (addLayout d e r)
  | .fork texts, r =>
    let texts := if d.backward then texts.map List.reverse else texts
    let length := texts.foldl (fun n text => Nat.max n text.length) 0
    ⟨addFork (r.addStates 1) (length + 1) texts, false⟩
  | .rep min max nullable e, r => addRepetition (addLayout d e) nullable r min max
  | .group e, r =>
    if d.groups then ⟨(addLayout d e (r.addStates 1)).link.addStates 1, false⟩ else addLayout d e r

/-- The alternatives behind the first one. The states before and behind all of them are written
behind the second one. -/
def addRest (d : Direction) (isSecond : Bool) : Layout → Written → Written
  | .alt e f, w =>
    let w := addLayout d e (w.link.addChoices 1)
    addRest d false f (if isSecond then { w with room := w.room.addStates 2 } else w)
  | e, w =>
    let w := addLayout d e (w.link.addChoices 1)
    let r := w.link.addChoices 1
    ⟨if isSecond then r.addStates 2 else r, false⟩

end

def Expr.isStartBound : Expr → Bool
  | .look l => l = .textStart
  | .seq e f => e.isStartBound || (e.isEmptyOnly && f.isStartBound)
  | .alt e f => e.isStartBound && f.isStartBound
  | .rep min _ _ e => 0 < min && e.isStartBound
  | .group _ e => e.isStartBound
  | _ => false

def Expr.isEndBound : Expr → Bool
  | .look l => l = .textEnd
  | .seq e f => f.isEndBound || (f.isEmptyOnly && e.isEndBound)
  | .alt e f => e.isEndBound && f.isEndBound
  | .rep min _ _ e => 0 < min && e.isEndBound
  | .group _ e => e.isEndBound
  | _ => false

/-- The room of the states in one direction, with those that skip what is before a match and the one
that accepts. -/
def roomFor (d : Direction) (e : Expr) : Room :=
  let isBound := if d.backward then e.isEndBound else e.isStartBound
  let start : Room := if isBound then ⟨1, 0, 0⟩ else ⟨3, 1, 3⟩
  (addLayout d (.group (.ofExpr e)) start).link.addStates 1

def Expr.fits (e : Expr) : Bool :=
  !(roomFor ⟨false, true⟩ e).isFull && !(roomFor ⟨true, false⟩ e).isFull

end Scaffold.Pattern
