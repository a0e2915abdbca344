import Std.Data.ExtTreeMap
import Scaffold.Document.Tree

/-!
Reading typed data out of document trees. Of several faults in a document the one that stands first
is reported. A reader is a function from trees; the fields of a record are put together from the
readings of single fields, each of which finds its entry by name.
-/
namespace Scaffold.Document

inductive Fault where
  | malformed
  | missingField (name : String)
  | duplicateField (name : String)
  | noVariant (type : String)
  deriving DecidableEq, Repr

namespace Fault

def detail? : Fault → Option String
  | malformed => none
  | missingField name => some s!"missing field \x60{name}\x60"
  | duplicateField name => some s!"duplicate field \x60{name}\x60"
  | noVariant type => some s!"did not match any variant of untagged enum {type}"

def message (f : Fault) : String :=
  f.detail?.getD "the text is not a document of the expected form"

end Fault

structure Setting where
  anchors : Array Tree
  /-- Whether a list stands for a record with its fields in the order of their declaration. -/
  listsAreRecords : Bool
  /-- How many lists and records may still be entered, one within the other. -/
  room : Nat
  /-- How many aliases may be followed in all. -/
  aliasLimit : Nat

abbrev Reading := ExceptT Fault (StateM Nat)

namespace Setting

def target (s : Setting) : Tree → Tree
  | .reference n => s.anchors[n]?.getD .broken
  | t => t

def follow (s : Setting) (t : Tree) : Reading Tree := do
  if t.isReference then
    let followed ← get
    set (followed + 1)
    if s.aliasLimit ≤ followed then throw .malformed
  return s.target t

def bare (s : Setting) (t : Tree) : Reading Tree := do
  match ← s.follow t with
  | .tagged t => return t
  | t => return t

def enter (s : Setting) : Reading Setting :=
  if s.room = 0 then throw .malformed else return { s with room := s.room - 1 }

def name? (s : Setting) (key : Tree) : Option String :=
  match s.target key with
  | .tagged t => t.text?
  | t => t.text?

end Setting

abbrev Reader (α : Type) := Setting → Tree → Reading α

def Fault.ofOption : Option α → Reading α
  | some a => return a
  | none => throw .malformed

namespace Reader

def run (r : Reader α) (s : Setting) (t : Tree) : Except Fault α :=
  (ExceptT.run (r s t) 0).1

def text : Reader String := fun s t => do Fault.ofOption (← s.bare t).text?

def flag : Reader Bool := fun s t => do Fault.ofOption (← s.bare t).flag?

def optional (r : Reader α) : Reader (Option α) := fun s t => do
  match ← s.follow t with
  | .scalar sc =>
    match sc.presence with
    | .missing => return none
    | .present => some <$> r s (.scalar sc)
    | .contradictory => throw .malformed
  | t => some <$> r s t

def list (r : Reader α) : Reader (List α) := fun s t => do
  match ← s.bare t with
  | .list items =>
    let inner ← s.enter
    items.mapM (r inner)
  | .scalar sc => if sc.isBlank then return [] else throw .malformed
  | _ => throw .malformed

/-- A record of values under any names; of two entries with one name the last stays. -/
def map (r : Reader α) : Reader (Std.ExtTreeMap String α) := fun s t => do
  match ← s.bare t with
  | .record entries =>
    let inner ← s.enter
    entries.foldlM (fun m (key, value) => do
      let name ← text s key
      return m.insert name (← r inner value)) ∅
  | .scalar sc => if sc.isBlank then return ∅ else throw .malformed
  | _ => throw .malformed

end Reader

/-! Records. -/

structure Entries where
  known : List (Nat × String × Tree)
  size : Nat
  missing : String → Fault

def Entries.find? (es : Entries) (name : String) : Option (Nat × Tree) :=
  (es.known.find? fun e => e.2.1 = name).map fun e => (e.1, e.2.2)

inductive Verdict (α : Type) where
  | value (a : α)
  | fault (place : Nat) (f : Fault)

namespace Verdict

def ofExcept (place : Nat) : Except Fault α → Verdict α
  | .ok a => value a
  | .error f => fault place f

/-- Of two faults the one that stands first is kept. -/
def both (g : α → β → γ) : Verdict α → Verdict β → Verdict γ
  | value a, value b => value (g a b)
  | value _, fault place f => fault place f
  | fault place f, value _ => fault place f
  | fault p f, fault q e => if p ≤ q then fault p f else fault q e

def reaches (place : Nat) : Verdict α → Bool
  | value _ => true
  | fault p _ => place ≤ p

end Verdict

/-- What the reading of some entries has come to, and how many aliases were followed in the entries
at which places. -/
structure Outcome (α : Type) where
  verdict : Verdict α
  followed : List (Nat × Nat)

namespace Outcome

def value (a : α) : Outcome α := ⟨.value a, []⟩

def fault (place : Nat) (f : Fault) : Outcome α := ⟨.fault place f, []⟩

def ofReading (place before : Nat) (r : Reading α) : Outcome α :=
  let (result, after) := r.run before
  ⟨.ofExcept place result, [(place, after - before)]⟩

def both (g : α → β → γ) (x : Outcome α) (y : Outcome β) : Outcome γ :=
  ⟨.both g x.verdict y.verdict, x.followed ++ y.followed⟩

/-- Ends the reading of a record. Its entries are read one after the other up to the first fault, and
the aliases that were followed on the way are too many at times. -/
def finish (s : Setting) (o : Outcome α) : Reading α := do
  let counted := o.followed.filter fun (place, _) => o.verdict.reaches place
  let followed := counted.foldl (fun n (_, count) => n + count) (← get)
  set followed
  if s.aliasLimit < followed then throw .malformed
  match o.verdict with
  | .value a => return a
  | .fault _ f => throw f

end Outcome

/-- The reading of some fields of a record, whose names are listed in the order of declaration. It is
given the number of aliases followed before the record. -/
structure Fields (α : Type) where
  names : List String
  read : Setting → Nat → Entries → Outcome α

namespace Fields

instance : Functor Fields where
  map g fs := ⟨fs.names, fun s n es => .both (fun a _ => g a) (fs.read s n es) (.value ())⟩

instance : Seq Fields where
  seq fs rest :=
    let gs := rest ()
    ⟨fs.names ++ gs.names, fun s n es => .both (fun g a => g a) (fs.read s n es) (gs.read s n es)⟩

def required (name : String) (r : Reader α) : Fields α :=
  ⟨[name], fun s n es =>
    match es.find? name with
    | some (place, t) => .ofReading place n (r s t)
    | none => .fault es.size (es.missing name)⟩

def withDefault (name : String) (default : α) (r : Reader α) : Fields α :=
  ⟨[name], fun s n es =>
    match es.find? name with
    | some (place, t) => .ofReading place n (r s t)
    | none => .value default⟩

def maybe (name : String) (r : Reader α) : Fields (Option α) :=
  withDefault name none (.optional r)

/-- The first entry that is at fault whatever its field is read as: one without a name, one that
stands twice, or an unknown one with a broken place. -/
def firstFault (s : Setting) (names seen : List String) (place : Nat) :
    List (Tree × Tree) → Verdict Unit
  | [] => .value ()
  | (key, value) :: entries =>
    match s.name? key with
    | none => .fault place .malformed
    | some name =>
      if names.contains name then
        if seen.contains name then .fault place (.duplicateField name)
        else firstFault s names (name :: seen) (place + 1) entries
      else if value.isComplete then firstFault s names seen (place + 1) entries
      else .fault place .malformed

def followedKeys (place : Nat) : List (Tree × Tree) → List (Nat × Nat)
  | [] => []
  | (key, _) :: entries =>
    if key.isReference then (place, 1) :: followedKeys (place + 1) entries
    else followedKeys (place + 1) entries

def numbered (s : Setting) (place : Nat) : List (Tree × Tree) → List (Nat × String × Tree)
  | [] => []
  | (key, value) :: entries =>
    match s.name? key with
    | some name => (place, name, value) :: numbered s (place + 1) entries
    | none => numbered s (place + 1) entries

def positional (place : Nat) : List String → List Tree → List (Nat × String × Tree)
  | name :: names, t :: ts => (place, name, t) :: positional (place + 1) names ts
  | _, _ => []

def record (fs : Fields α) : Reader α := fun s t => do
  match ← s.bare t with
  | .record entries =>
    let inner ← s.enter
    let es : Entries := ⟨numbered s 0 entries, entries.length, .missingField⟩
    let others : Outcome Unit := ⟨firstFault s fs.names [] 0 entries, followedKeys 0 entries⟩
    Outcome.finish s (.both (fun a _ => a) (fs.read inner (← get) es) others)
  | .list items =>
    if s.listsAreRecords then
      let inner ← s.enter
      let es : Entries := ⟨positional 0 fs.names items, items.length, fun _ => .malformed⟩
      let a ← Outcome.finish s (fs.read inner (← get) es)
      if fs.names.length < items.length then throw .malformed
      return a
    else throw .malformed
  | .scalar sc =>
    if sc.isBlank then Outcome.finish s (fs.read s (← get) ⟨[], 0, .missingField⟩) else throw .malformed
  | _ => throw .malformed

end Fields

/-! Values that can be anything. -/

/-- Checks that all of a tree can be read without a wish for a type; `room` is how many levels may
be entered. -/
def checkReadable (s : Setting) (room : Nat) (t : Tree) : Reading Unit := do
  match room, ← s.follow t with
  | _, .scalar sc => if sc.atom?.isNone then throw .malformed
  | room + 1, .list items => items.forM (checkReadable s room)
  | room + 1, .record entries =>
    entries.forM fun (key, value) => do
      checkReadable s room key
      checkReadable s room value
  | _, _ => throw .malformed

namespace Reader

/-- Reads a value by one of several forms: the tree is given to `form?` once all of it is known to
be readable. -/
def oneOf (type : String) (form? : Setting → Tree → Option α) : Reader α := fun s t => do
  checkReadable s s.room t
  match form? s (s.target t) with
  | some a => return a
  | none => throw (.noVariant type)

end Reader

def textAtom? (s : Setting) (t : Tree) : Option String :=
  match (s.target t).atom? with
  | some (.text text) => some text
  | _ => none

/-- Which of two fields a key means, by name or by number: the first, the second or another one.
None when it cannot be the key of a field. -/
def pairKey? (first second : String) (s : Setting) (key : Tree) : Option (Option Bool) :=
  match (s.target key).atom? with
  | some (.text name) =>
    some (if name = first then some true else if name = second then some false else none)
  | some (.integer n) =>
    if n < 0 then none
    else some (if n = 0 then some true else if n = 1 then some false else none)
  | _ => none

def pair? (first second : String) (s : Setting) : Tree → Option (String × String)
  | .record entries => do
    let (a, b) ← entries.foldlM (fun (a, b) (key, value) => do
      match ← pairKey? first second s key with
      | some true => if a.isSome then none else return (some (← textAtom? s value), b)
      | some false => if b.isSome then none else return (a, some (← textAtom? s value))
      | none => return (a, b)) ((none, none) : Option String × Option String)
    return (← a, ← b)
  | _ => none

end Scaffold.Document
