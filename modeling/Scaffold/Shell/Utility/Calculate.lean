import Scaffold.Shell.Arithmetic
import Scaffold.Shell.Regex.Reader
import Scaffold.Shell.Utility.Basic

/-!
A program that works out an expression of its arguments. Texts that are integers count as numbers.
-/
namespace Scaffold.Shell

namespace Calculation

inductive Fault where
  | missingAfter (word : String)
  | missingClosing (word : String)
  | unexpected (word : String)
  | notAnInteger
  | divisionByZero
  | badPattern (f : Regex.Fault)

def Fault.message : Fault → String
  | missingAfter word => s!"syntax error: missing argument after '{word}'"
  | missingClosing word => s!"syntax error: expecting ')' after '{word}'"
  | unexpected word => s!"syntax error: unexpected argument '{word}'"
  | notAnInteger => "non-integer argument"
  | divisionByZero => "division by zero"
  | badPattern f => f.message

structure Reader where
  rest : List String
  last : String

abbrev Reading := StateT Reader (Except Fault)

def integer? (text : String) : Option Int :=
  let s := text.toList
  let ds := if s.head? = some '-' then s.drop 1 else s
  if ds.isEmpty || !ds.all Char.isDigit then none
  else
    let n : Int := ((String.ofList ds).toNat?.getD 0 : Nat)
    some (if s.head? = some '-' then -n else n)

def integer (text : String) : Reading Int := do
  match integer? text with
  | some n => return n
  | none => throw .notAnInteger

def isNull (text : String) : Bool := text.isEmpty || integer? text = some 0

def ofBool (b : Bool) : String := if b then "1" else "0"

def operator? (operators : List String) : Reading (Option String) := do
  match (← get).rest with
  | word :: rest =>
    if operators.contains word then
      set (Reader.mk rest word)
      return some word
    else return none
  | [] => return none

def word : Reading String := do
  match ← get with
  | ⟨w :: rest, _⟩ => do
    set (Reader.mk rest w)
    return w
  | ⟨[], last⟩ => throw (.missingAfter last)

/-- What a pattern matches at the front of a text: its group if it has one, else its length. -/
def matched (text pattern : String) : Reading String := do
  match Regex.ofText false pattern with
  | .error f => throw (.badPattern f)
  | .ok (r, groups) =>
    let s := Regex.Subject.ofText text false
    match Regex.matchAt? r s (fun _ _ => true) 0 with
    | none => return if groups = 0 then "0" else ""
    | some m => return if groups = 0 then toString m.last else String.ofList (m.text s 1)

def compare (op a b : String) : Bool :=
  let order := match integer? a, integer? b with
    | some m, some n => Ord.compare m n
    | _, _ => Ord.compare a b
  match op with
  | "<" => order = .lt
  | "<=" => order ≠ .gt
  | "=" | "==" => order = .eq
  | "!=" => order ≠ .eq
  | ">=" => order ≠ .lt
  | _ => order = .gt

def combined (op a b : String) : Reading String := do
  match op with
  | "|" => return if !isNull a then a else if !isNull b then b else "0"
  | "&" => return if isNull a || isNull b then "0" else a
  | "+" => return toString ((← integer a) + (← integer b))
  | "-" => return toString ((← integer a) - (← integer b))
  | "*" => return toString ((← integer a) * (← integer b))
  | "/" | "%" => do
    let m ← integer a
    let n ← integer b
    if n = 0 then throw .divisionByZero
    return toString (if op = "/" then m.tdiv n else m.tmod n)
  | ":" => matched a b
  | op => return ofBool (compare op a b)

/-- The operators from those that bind least to those that bind most. -/
def levels : List (List String) :=
  [["|"], ["&"], ["<", "<=", "=", "==", "!=", ">=", ">"], ["+", "-"], ["*", "/", "%"], [":"]]

mutual

def expression (operators : List (List String)) : Nat → Reading String
  | 0 => throw .notAnInteger
  | fuel + 1 => do
    match operators with
    | [] => single fuel
    | here :: tighter => further here tighter (← expression tighter fuel) fuel

def further (here : List String) (tighter : List (List String)) (a : String) : Nat → Reading String
  | 0 => throw .notAnInteger
  | fuel + 1 => do
    match ← operator? here with
    | none => return a
    | some op => do
      let b ← expression tighter fuel
      further here tighter (← combined op a b) fuel

def single : Nat → Reading String
  | 0 => throw .notAnInteger
  | fuel + 1 => do
    match ← word with
    | "(" => do
      let a ← expression levels fuel
      match (← get) with
      | ⟨")" :: rest, _⟩ => do
        set (Reader.mk rest ")")
        return a
      | ⟨[], last⟩ => throw (.missingClosing last)
      | ⟨w :: _, _⟩ => throw (.unexpected w)
    | ")" => throw (.unexpected ")")
    | "+" => word
    | "length" => return toString (← single fuel).length
    | "match" => do
      let text ← single fuel
      matched text (← single fuel)
    | "index" => do
      let text ← single fuel
      let chars := (← single fuel).toList
      return toString ((text.toList.findIdx? chars.contains).elim 0 (· + 1))
    | "substr" => do
      let text ← single fuel
      let first := integer? (← single fuel)
      let count := integer? (← single fuel)
      match first, count with
      | some m, some n =>
        if m ≤ 0 || n ≤ 0 then return ""
        return String.ofList ((text.toList.drop (m.toNat - 1)).take n.toNat)
      | _, _ => return ""
    | w => return w

end

def ofWords (words : List String) : Except Fault String := do
  let (value, r) ← (expression levels (16 * words.length + 16)).run ⟨words, ""⟩
  match r.rest with
  | [] => return value
  | w :: _ => throw (.unexpected w)

end Calculation

namespace Utility

open Act

def calculate (args : List String) : Act Nat := do
  let words := if args.head? = some "--" then args.drop 1 else args
  if words.isEmpty then return ← misuse "expr" "missing operand" 2
  match Calculation.ofWords words with
  | .ok value => do
    writeLine value
    ofBool !(Calculation.isNull value)
  | .error f => do
    complain s!"expr: {f.message}"
    return 2

end Utility

end Scaffold.Shell
