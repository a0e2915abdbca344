import Scaffold.Document.Tree
import Scaffold.Document.Yaml.Scalar
import Scaffold.Number.Decimal

/-!
What the scalars of YAML stand for. Only a plain scalar can be something else than its text, unless
its tag says so.
-/
namespace Scaffold.Document.Yaml

inductive Kind where
  | null
  | flag
  | integer
  | number
  | own
  | other
  deriving DecidableEq, Repr

namespace Kind

def ofTag (tag : List UInt8) : Kind :=
  let isTag (name : String) := tag = ("tag:yaml.org,2002:" ++ name).toUTF8.toList
  if isTag "null" then null
  else if isTag "bool" then flag
  else if isTag "int" then integer
  else if isTag "float" then number
  else if tag.head? = some '!'.toUInt8 then own
  else other

end Kind

namespace Reading

def isNull (s : List Char) : Bool :=
  ["null", "Null", "NULL", "~"].any (·.toList = s)

def flag? (s : List Char) : Option Bool :=
  if ["true", "True", "TRUE"].any (·.toList = s) then some true
  else if ["false", "False", "FALSE"].any (·.toList = s) then some false
  else none

/-! Integers. -/

def hasLeadingZero (s : List Char) : Bool :=
  let ds := (Decimal.readSign s).2
  1 < ds.length && ds.head? = some '0' && ds.all Char.isDigit

def digits? (radix : Nat) (s : List Char) : Option Nat :=
  if s.isEmpty then none
  else s.foldlM (fun n c => do
    let d ← Quoted.hexDigit? c
    if d < radix then some (radix * n + d) else none) 0

def marked? : List Char → Option Nat
  | '0' :: 'x' :: s => digits? 16 s
  | '0' :: 'o' :: s => digits? 8 s
  | '0' :: 'b' :: s => digits? 2 s
  | _ => none

/-- An integer of any size; the sign stands first, and a radix mark after it. -/
def integer? (s : List Char) : Option Int :=
  let (negative, ds) := Decimal.readSign s
  let n := (marked? ds) <|> (if hasLeadingZero s then none else digits? 10 ds)
  n.map fun n => if negative then -(n : Int) else n

def isNarrow (n : Int) : Bool := -Int.pow 2 63 ≤ n && n < Int.pow 2 64

def isWide (n : Int) : Bool := -Int.pow 2 127 ≤ n && n < Int.pow 2 128

/-! Other numbers. -/

def number? (s : List Char) : Option Binary64 :=
  let (negative, body) := Decimal.readSign s
  if [".inf", ".Inf", ".INF"].any (·.toList = body) then some (.infinity negative)
  else if [".nan", ".NaN", ".NAN"].any (·.toList = s) then some .nan
  else
    match (Decimal.read? s).map Decimal.toBinary64 with
    | some x => if x.isFinite then some x else none
    | none => none

/-! Atoms. -/

def integerAtom? (s : List Char) : Option (Option Atom) :=
  match integer? s with
  | some n =>
    if isNarrow n then some (some (.integer n)) else if isWide n then some none else none
  | none => none

/-- What a plain scalar without a tag stands for. An integer of more than 64 and at most 128 bits is
nothing that can be read. -/
def plainAtom? (s : List Char) : Option Atom :=
  if s.isEmpty || isNull s then some .null
  else
    match flag? s with
    | some b => some (.flag b)
    | none =>
      match integerAtom? s with
      | some atom => atom
      | none =>
        match if hasLeadingZero s then none else number? s with
        | some x => some (.number x)
        | none => some (.text (String.ofList s))

def atom? (kind : Option Kind) (style : ScalarStyle) (s : List Char) : Option Atom :=
  match kind with
  | some .null => if isNull s then some .null else none
  | some .flag => (flag? s).map .flag
  | some .integer => (integerAtom? s).bind id
  | some .number => (number? s).map .number
  | some .other => some (.text (String.ofList s))
  | some .own | none => if style = .plain then plainAtom? s else some (.text (String.ofList s))

def presence (kind : Option Kind) (style : ScalarStyle) (s : List Char) : Presence :=
  if style ≠ .plain then .present
  else
    match kind with
    | some .null => if isNull s then .missing else .contradictory
    | some _ => .present
    | none => if s.isEmpty || isNull s then .missing else .present

def scalar (kind : Option Kind) (style : ScalarStyle) (s : List Char) : Scalar where
  text? := some (String.ofList s)
  flag? := if style = .plain || (style = .literal && kind = some .flag) then flag? s else none
  atom? := atom? kind style s
  presence := presence kind style s
  isBlank := style = .plain && s.isEmpty

end Reading

end Scaffold.Document.Yaml
