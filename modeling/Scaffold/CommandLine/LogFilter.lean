import Scaffold.Text.Blank
import Scaffold.Text.Search
import Scaffold.Text.Word
import Scaffold.Warned

/-!
Which warnings are written to the error output. A filter is a list of directives between commas, each
of which sets a level for the parts of the program whose names begin with its target; of the
directives for a part the most specific one counts. A filter that cannot be read does not count.
-/
namespace Scaffold

namespace CommandLine

inductive LogLevel where
  | off
  | error
  | warn
  | info
  | debug
  | trace
  deriving DecidableEq, Repr

namespace LogLevel

def rank : LogLevel → Nat
  | off => 0
  | error => 1
  | warn => 2
  | info => 3
  | debug => 4
  | trace => 5

def all : List LogLevel := [off, error, warn, info, debug, trace]

def name : LogLevel → String
  | off => "off"
  | error => "error"
  | warn => "warn"
  | info => "info"
  | debug => "debug"
  | trace => "trace"

/-- A level by its rank, which may have a sign and leading zeros, or by its name in any case. -/
def ofText? (s : List Char) : Option LogLevel :=
  let digits := if s.head? = some '+' then s.drop 1 else s
  if !digits.isEmpty && digits.all Char.isDigit then
    let n := digits.foldl (fun n d => 10 * n + (d.toNat - '0'.toNat)) 0
    all.find? fun level => level.rank = n
  else all.find? fun level => level.name.toList = s.map Char.toLower

end LogLevel

structure LogDirective where
  level : LogLevel
  target : Option (List Char)
  span : Option (List Char)
  /-- The fields that a message needs to have. A field with a value restricts it to spans as well. -/
  fields : List (List Char)

namespace LogDirective

def stop? (p : Char → Bool) (s : List Char) (start : Nat) : Option (Char × Nat) :=
  let before := (s.drop start).takeWhile (!p ·)
  ((s.drop (start + before.length)).head?).map (·, start + before.length)

/-- The text of a directive. Places are found in `s`, and the parts at these places are those of
`whole`; the two differ where blanks stand at the ends of the whole. -/
structure Source where
  whole : List Char
  s : List Char

namespace Source

def part (x : Source) (start stop : Nat) : List Char :=
  (x.whole.drop start).take (stop - start)

def withLevel? (x : Source) (d : LogDirective) (start : Nat) : Option LogDirective :=
  match x.whole.drop start with
  | [] => some d
  | level => (LogLevel.ofText? level).map fun level => { d with level }

def afterSpan? (x : Source) (d : LogDirective) (start : Nat) : Option LogDirective :=
  match x.s.drop start with
  | [] => some d
  | '=' :: _ => x.withLevel? d (start + 1)
  | _ => none

def span? (x : Source) (d : LogDirective) (start : Nat) : Option LogDirective := do
  let (c, stop) ← stop? (fun c => c = ']' || c = '{') x.s start
  let name := x.part start stop
  if c = ']' then x.afterSpan? { d with span := some name } (stop + 1)
  else
    let (_, close) ← stop? (· = '}') x.s (stop + 1)
    let field := x.part (stop + 1) close
    if field.isEmpty || (x.s.drop (close + 1)).head? ≠ some ']' then none
    x.afterSpan?
      { d with span := if name.isEmpty then none else some name, fields := [field] } (close + 2)

def directive? (x : Source) : Option LogDirective := do
  let first ← x.s.head?
  let d : LogDirective := ⟨.trace, none, none, []⟩
  if first = '[' then x.span? d 1
  else
    if !(first = '-' || first = ':' || first = '_' || Text.isAlphanumeric first) then none
    match stop? (fun c => c = '=' || c = '[') x.s 0 with
    | some (c, stop) =>
      let d := { d with target := some (x.part 0 stop) }
      if c = '=' then x.withLevel? d (stop + 1) else x.span? d (stop + 1)
    | none =>
      match LogLevel.ofText? x.whole with
      | some level => return { d with level }
      | none => return { d with target := some x.whole }

end Source

def ofText? (text : List Char) : Option LogDirective :=
  Source.directive? ⟨text, Text.trim text⟩

def concerns (d : LogDirective) (origin : List Char) : Bool :=
  d.span.isNone && d.fields.all (· = "message".toList) &&
    d.target.all fun target => (Text.dropStart? target origin).isSome

/-- Directives with a longer target count before others, and then those that name a field. -/
def specificity (d : LogDirective) : Nat :=
  2 * d.target.elim 0 (fun target => (String.ofList target).utf8ByteSize + 1) + d.fields.length

end LogDirective

abbrev LogFilter := List LogDirective

namespace LogFilter

def default : LogFilter := [⟨.info, some "kiln".toList, none, []⟩]

def ofText? (text : String) : Option LogFilter := do
  let pieces := (Text.pieces ',' text.toList).filter fun piece => !piece.isEmpty
  if pieces.isEmpty then return [⟨.error, none, none, []⟩]
  pieces.mapM LogDirective.ofText?

/-- The directive that counts for a part of the program: of the most specific ones the last. -/
def directiveFor? (f : LogFilter) (origin : List Char) : Option LogDirective :=
  (f.filter (·.concerns origin)).foldl (fun best d =>
    if best.any fun b => d.specificity < b.specificity then best else some d) none

def showsWarnings (f : LogFilter) (origin : String) : Bool :=
  (f.directiveFor? origin.toList).any fun d => LogLevel.warn.rank ≤ d.level.rank

end LogFilter

end CommandLine

def Warning.origin : Warning → String
  | undefinedVariable _ => "kiln::template::resolver"
  | unrecognizedCondition _ => "kiln::template::condition"

end Scaffold
