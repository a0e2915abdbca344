import Scaffold.Pattern.Expr
import Scaffold.Text.Age
import Scaffold.Text.Blank
import Scaffold.Text.Category
import Scaffold.Text.Fold
import Scaffold.Text.Property
import Scaffold.Text.Script
import Scaffold.Text.Segment
import Scaffold.Text.Word

/-!
Named sets of characters in patterns. Without Unicode all sets have ASCII characters only.
-/
namespace Scaffold.Pattern.CharSet

open Text

def surrogates : Ranges := ⟨#[(0xD800, 0xDFFF)]⟩

def negate (r : Ranges) : Ranges :=
  r.union surrogates |>.complement topCodePoint

def all : Ranges := negate .empty

def meets (r : Ranges) (cls : List Nat) : Bool := cls.any r.contains

def fold (unicode : Bool) (r : Ranges) : Ranges :=
  if unicode then
    r.union (.ofList ((foldClasses.filter (meets r)).flatten.map fun n => (n, n)))
  else
    let letters := (List.range 26).map fun i => ['A'.toNat + i, 'a'.toNat + i]
    r.union (.ofList ((letters.filter (meets r)).flatten.map fun n => (n, n)))

def ascii (ranges : List (Char × Char)) : Ranges :=
  .ofList (ranges.map fun (first, last) => (first.toNat, last.toNat))

def digit : List (Char × Char) := [('0', '9')]
def lower : List (Char × Char) := [('a', 'z')]
def upper : List (Char × Char) := [('A', 'Z')]

def named? : String → Option Ranges
  | "alnum" => some (ascii (digit ++ upper ++ lower))
  | "alpha" => some (ascii (upper ++ lower))
  | "ascii" => some (ascii [('\x00', '\x7f')])
  | "blank" => some (ascii [('\t', '\t'), (' ', ' ')])
  | "cntrl" => some (ascii [('\x00', '\x1f'), ('\x7f', '\x7f')])
  | "digit" => some (ascii digit)
  | "graph" => some (ascii [('!', '~')])
  | "lower" => some (ascii lower)
  | "print" => some (ascii [(' ', '~')])
  | "punct" => some (ascii [('!', '/'), (':', '@'), ('[', '\x60'), ('\x7b', '~')])
  | "space" => some (ascii [('\t', '\r'), (' ', ' ')])
  | "upper" => some (ascii upper)
  | "word" => some (ascii (digit ++ upper ++ ['_'].map (fun c => (c, c)) ++ lower))
  | "xdigit" => some (ascii (digit ++ [('A', 'F'), ('a', 'f')]))
  | _ => none

def asciiWord : Ranges := (named? "word").getD .empty

def shorthand? (unicode : Bool) : Char → Option Ranges
  | 'd' => some (if unicode then (ascii digit).union digitRanges else ascii digit)
  | 's' =>
    if unicode then
      some (.ofList [(9, 13), (0x20, 0x20), (0x85, 0x85), (0xA0, 0xA0), (0x1680, 0x1680),
        (0x2000, 0x200A), (0x2028, 0x2029), (0x202F, 0x202F), (0x205F, 0x205F), (0x3000, 0x3000)])
    else named? "space"
  | 'w' => some (if unicode then asciiWord.union wordRanges else asciiWord)
  | _ => none

/-! Properties. -/

def withoutIs : List Char → Bool × List Char
  | i :: s :: rest => if i.toLower = 'i' && s.toLower = 's' then (true, rest) else (false, i :: s :: rest)
  | s => (false, s)

/-- A name in lower case, without a leading `is`, blanks, hyphens and underscores. -/
def normalName (name : List Char) : String :=
  let (cut, rest) := withoutIs name
  let kept := (rest.filter fun c => c.toNat < 128 && c ≠ ' ' && c ≠ '_' && c ≠ '-').map Char.toLower
  if cut && kept = ['c'] then "isc" else String.ofList kept

def ofTables (tables : List String) : Ranges :=
  .ofList (tables.flatMap fun table => (Ranges.ofTable table).toList)

/-- The characters that no category holds. -/
def unassigned : Ranges := negate (ofTables (categories.map Prod.snd))

def categoryByShortName? (name : String) : Option Ranges :=
  if name = "cn" then some unassigned
  else
    match categories.lookup name with
    | some table => some (.ofTable table)
    | none => do
      let members ← categoryGroups.lookup name
      let r := ofTables (members.filterMap fun m => categories.lookup m)
      return if name = "c" then r.union unassigned else r

def category? (name : String) : Option Ranges :=
  match name with
  | "any" => some all
  | "ascii" => named? "ascii"
  | "assigned" => some (negate unassigned)
  | name => categoryByShortName? ((categoryNames.lookup name).getD name)

def byAlias? (tables : List (List String × String)) (name : String) : Option Ranges :=
  (tables.find? fun e => e.1.contains name).map fun e => .ofTable e.2

def extended? (name : String) : Option Ranges := do
  let (names, table) ← scripts.find? fun e => e.1.contains name
  let r := (Ranges.ofTable table).diff topCodePoint (ofTables (scriptExtensions.map Prod.snd))
  let added := scriptExtensions.filter fun e => e.1.any names.contains
  return r.union (ofTables (added.map Prod.snd))

def since? (name : String) : Option Ranges :=
  let earlier := ages.takeWhile fun e => !e.1.contains name
  match ages.drop earlier.length with
  | [] => none
  | e :: _ => some (ofTables ((earlier ++ [e]).map Prod.snd))

def property? (name : List Char) : Option Ranges :=
  let name := normalName name
  byAlias? properties name <|> category? name <|> byAlias? scripts name

def valued? (name value : List Char) : Option Ranges :=
  let value := normalName value
  match normalName name with
  | "gc" | "generalcategory" => category? value
  | "sc" | "script" => byAlias? scripts value
  | "scx" | "scriptextensions" => extended? value
  | "age" => since? value
  | "gcb" | "graphemeclusterbreak" => byAlias? graphemeClasses value
  | "wb" | "wordbreak" => byAlias? wordClasses value
  | "sb" | "sentencebreak" => byAlias? sentenceClasses value
  | _ => none

end Scaffold.Pattern.CharSet
