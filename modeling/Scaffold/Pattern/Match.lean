import Scaffold.Pattern.Program
import Scaffold.Pattern.Reader
import Scaffold.Pattern.Room

/-!
Matching texts. A program runs on all its threads at once, in the order of their preference, so that
the time is bounded by the product of the sizes of program and text. Of all matches that begin
first the most preferred one is found.
-/
namespace Scaffold

structure Pattern where
  program : Pattern.Program
  groupCount : Nat
  names : List (String × Nat)

namespace Pattern

open Text

/-! Places. -/

def isWordAt (unicode : Bool) (c : Option Char) : Bool :=
  c.any fun c => if unicode then isWord c else c.isAlphanum || c = '_'

def Look.holds (before after : Option Char) : Look → Bool
  | textStart => before.isNone
  | textEnd => after.isNone
  | lineStart false => before.isNone || before = some '\n'
  | lineStart true =>
    before.isNone || before = some '\n' || (before = some '\r' && after ≠ some '\n')
  | lineEnd false => after.isNone || after = some '\n'
  | lineEnd true => after.isNone || after = some '\r' || (after = some '\n' && before ≠ some '\r')
  | boundary u => isWordAt u before != isWordAt u after
  | notBoundary u => isWordAt u before == isWordAt u after
  | wordStart u => !isWordAt u before && isWordAt u after
  | wordEnd u => isWordAt u before && !isWordAt u after
  | noWordBefore u => !isWordAt u before
  | noWordAfter u => !isWordAt u after

/-! Threads. -/

abbrev Slots := Array (Option Nat)

structure Thread where
  label : Nat
  slots : Slots

structure Threads where
  /-- For each label the place where it was reached last, counted from one. -/
  reached : Array Nat
  waiting : List Thread

def Threads.none (p : Program) : Threads := ⟨Array.replicate p.code.size 0, []⟩

structure Place where
  index : Nat
  before : Option Char
  after : Option Char

/-- Follows threads until each of them waits for a character or accepts. A label that a preferred
thread has reached is not followed again. -/
def settle (p : Program) (place : Place) (ts : Threads) : Nat → List Thread → Threads
  | 0, _ => ts
  | _, [] => ts
  | fuel + 1, t :: stack =>
    if ts.reached[t.label]? = some (place.index + 1) then settle p place ts fuel stack
    else
      let ts := { ts with reached := ts.reached.setIfInBounds t.label (place.index + 1) }
      match p.code[t.label]? with
      | some (.split first second) =>
        settle p place ts fuel (⟨first, t.slots⟩ :: ⟨second, t.slots⟩ :: stack)
      | some (.look l next) =>
        if l.holds place.before place.after then settle p place ts fuel (⟨next, t.slots⟩ :: stack)
        else settle p place ts fuel stack
      | some (.save slot next) =>
        settle p place ts fuel (⟨next, t.slots.setIfInBounds slot (some place.index)⟩ :: stack)
      | some _ => settle p place { ts with waiting := t :: ts.waiting } fuel stack
      | none => settle p place ts fuel stack

def add (p : Program) (place : Place) (ts : Threads) (t : Thread) : Threads :=
  settle p place ts (2 * p.code.size + 2) [t]

/-- Lets the threads take a character: the threads at the place after it, and the slots of the first
thread that accepts instead. Threads behind that one are dropped. -/
def advance (p : Program) (c : Option Char) (next : Place) (ts : Threads) :
    List Thread → Threads × Option Slots
  | [] => (ts, none)
  | t :: rest =>
    match p.code[t.label]? with
    | some .accept => (ts, some t.slots)
    | some (.char set label) =>
      if c.any fun c => set.contains c.toNat then
        advance p c next (add p next ts ⟨label, t.slots⟩) rest
      else advance p c next ts rest
    | _ => advance p c next ts rest

/-- The slots of the match that begins first, where `text` is what follows the place. A new thread
starts at each place as long as there is no match. -/
def run (p : Program) (slots : Slots) (index : Nat) (before : Option Char) (ts : Threads)
    (best : Option Slots) (text : List Char) : Option Slots :=
  let place : Place := ⟨index, before, text.head?⟩
  let ts := if best.isNone then add p place ts ⟨p.start, slots⟩ else ts
  match text with
  | [] =>
    let (_, found) := advance p none place { ts with waiting := [] } ts.waiting.reverse
    found <|> best
  | c :: rest =>
    let next : Place := ⟨index + 1, some c, rest.head?⟩
    let (ts, found) := advance p (some c) next { ts with waiting := [] } ts.waiting.reverse
    let best := found <|> best
    if ts.waiting.isEmpty && best.isSome then best
    else run p slots (index + 1) (some c) ts best rest

/-! Matches. -/

structure Span (s : List Char) where
  start : Nat
  stop : Nat
  ordered : start ≤ stop
  within : stop ≤ s.length

namespace Span

variable {s : List Char}

def ofBounds? (s : List Char) (start stop : Nat) : Option (Span s) :=
  if h : start ≤ stop ∧ stop ≤ s.length then some ⟨start, stop, h.1, h.2⟩ else none

def text (x : Span s) : List Char := (s.drop x.start).take (x.stop - x.start)

def before (x : Span s) : List Char := s.take x.start

def after (x : Span s) : List Char := s.drop x.stop

theorem before_text_after (x : Span s) : x.before ++ x.text ++ x.after = s := by
  simp only [before, text, after]
  rw [← List.take_add, Nat.add_sub_cancel' x.ordered, List.take_append_drop]

end Span

/-- A match in a text, and the stretches of its groups; group one comes first. -/
structure Match (s : List Char) where
  whole : Span s
  groups : List (Option (Span s))

def Match.groupText {s : List Char} (m : Match s) : Nat → List Char
  | 0 => m.whole.text
  | i + 1 => (m.groups[i]?.join.map Span.text).getD []

def spanOf? (s : List Char) (slots : Slots) (index : Nat) : Option (Span s) := do
  Span.ofBounds? s (← slots[2 * index]?.join) (← slots[2 * index + 1]?.join)

def find? (p : Pattern) (s : List Char) (index : Nat) : Option (Match s) := do
  if s.length < index then none
  let before := if index = 0 then none else s[index - 1]?
  let empty := Array.replicate (2 * p.groupCount + 2) none
  let slots ← run p.program empty index before (.none p.program) none (s.drop index)
  let whole ← spanOf? s slots 0
  return ⟨whole, (List.range p.groupCount).map fun i => spanOf? s slots (i + 1)⟩

/-- The matches from `index` on that do not overlap. An empty match right behind a match, whose end
is `last`, does not count. -/
def matchesFrom (p : Pattern) (s : List Char) (index : Nat) (last : Option Nat) :
    Nat → List (Match s)
  | 0 => []
  | fuel + 1 =>
    match p.find? s index with
    | none => []
    | some m =>
      if m.whole.start = m.whole.stop && last = some m.whole.stop then
        matchesFrom p s (index + 1) last fuel
      else m :: matchesFrom p s m.whole.stop (some m.whole.stop) fuel

/-- All matches from left to right. Each place is passed after two tries at most. -/
def findAll (p : Pattern) (s : List Char) : List (Match s) :=
  p.matchesFrom s 0 none (2 * s.length + 2)

def isMatch (p : Pattern) (text : String) : Bool :=
  (p.find? text.toList 0).isSome

def parse (text : String) : Except Fault Pattern := do
  let (e, reading) ← Read.pattern.run ⟨text.toList, {}, 0, []⟩
  if !e.fits then throw .tooLarge
  let count := e.groupCount
  return ⟨.ofExpr e, count, reading.names.filter fun (_, index) => e.hasGroup index⟩

end Pattern

end Scaffold
