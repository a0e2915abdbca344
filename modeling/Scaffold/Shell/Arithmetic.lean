import Scaffold.Shell.Cursor

/-!
The arithmetic of a shell: integers of 64 bits that wrap around, with the usual operators.
-/
namespace Scaffold.Shell.Arithmetic

inductive Fault where
  /-- Something that had to stand at some place, or a division by zero. -/
  | malformed (what : String)
  | badNumber (text : String)
  deriving DecidableEq, Repr

def wrap (n : Int) : Int := Int.bmod n (Nat.pow 2 64)

def largest : Int := Int.pow 2 63 - 1
def least : Int := -Int.pow 2 63

def ofBool (b : Bool) : Int := if b then 1 else 0

def bitwise (f : Int64 → Int64 → Int64) (a b : Int) : Int :=
  (f (Int64.ofInt a) (Int64.ofInt b)).toInt

/-! Numbers. -/

def digit? (radix : Nat) (c : Char) : Option Nat :=
  let d :=
    if c.isDigit then c.toNat - '0'.toNat
    else if c.isAlpha then c.toLower.toNat - 'a'.toNat + 10
    else radix
  if d < radix then some d else none

def digits (radix : Nat) (s : List Char) : Nat × List Char :=
  let ds := s.takeWhile fun c => (digit? radix c).isSome
  (ds.foldl (fun n c => radix * n + (digit? radix c).getD 0) 0, s.drop ds.length)

def natural (s : List Char) : Nat × List Char :=
  match s with
  | '0' :: x :: d :: rest =>
    if (x = 'x' || x = 'X') && (digit? 16 d).isSome then digits 16 (d :: rest)
    else digits 8 s
  | '0' :: _ => digits 8 s
  | s => digits 10 s

/-- An integer at the front of a text after white space, and what follows; none if there is no
digit. With a radix of its own a text says nothing about the radix. -/
def integer? (radix : Option Nat) (s : List Char) : Option (Int × List Char) :=
  let s := s.dropWhile fun c => c = ' ' || (9 ≤ c.toNat && c.toNat ≤ 13)
  let (isNegative, s) := match s with
    | '-' :: s => (true, s)
    | '+' :: s => (false, s)
    | s => (false, s)
  if s.head?.any Char.isDigit then
    let (n, rest) := match radix with
      | some radix => digits radix s
      | none => natural s
    some (if isNegative then -(n : Int) else n, rest)
  else none

def whole? (radix : Option Nat) (isEmptyZero : Bool) (text : String) : Option Int :=
  let isOver (s : List Char) := s.all fun c => c = ' ' || (9 ≤ c.toNat && c.toNat ≤ 13)
  match integer? radix text.toList with
  | some (n, rest) => if isOver rest && least ≤ n && n ≤ largest then some n else none
  | none => if isEmptyZero && isOver text.toList then some 0 else none

/-! Tokens. -/

inductive Token where
  | number (n : Int)
  | name (text : String)
  | operator (text : String)
  | stray
  deriving DecidableEq, Repr

def assignments : List String :=
  ["<<=", ">>=", "+=", "-=", "*=", "/=", "%=", "&=", "|=", "^=", "="]

/-- The operators, with longer ones before their beginnings. -/
def operators : List String :=
  ["<<=", ">>=", "||", "&&", "==", "!=", "<=", ">=", "<<", ">>", "+=", "-=", "*=", "/=", "%=",
    "&=", "|=", "^=", "+", "-", "*", "/", "%", "<", ">", "&", "|", "^", "!", "~", "?", ":", "=",
    "(", ")"]

def tokens : List Char → Nat → List Token
  | [], _ | _, 0 => []
  | c :: s, fuel + 1 =>
    if c = ' ' || c = '\t' || c = '\n' then tokens s fuel
    else if c.isDigit then
      let (n, rest) := natural (c :: s)
      .number (min n largest) :: tokens rest fuel
    else if Shell.Token.isNameStart c then
      let name := (c :: s).takeWhile Shell.Token.isNameChar
      .name (String.ofList name) :: tokens ((c :: s).drop name.length) fuel
    else
      match operators.find? fun o => o.toList.isPrefixOf (c :: s) with
      | some o => .operator o :: tokens ((c :: s).drop o.length) fuel
      | none => .stray :: tokens s fuel

/-! Values. -/

structure State where
  rest : List Token
  value? : String → Option String
  assigned : List (String × Int)

abbrev Evaluating := StateT State (Except Fault)

def peek : Evaluating (Option Token) := return (← get).rest.head?

def advance : Evaluating Unit := modify fun s => { s with rest := s.rest.drop 1 }

def isNext (operator : String) : Evaluating Bool := return (← peek) = some (.operator operator)

def valueOf (name : String) : Evaluating Int := do
  let s ← get
  match s.assigned.lookup name with
  | some n => return n
  | none =>
    let text := (s.value? name).getD ""
    match whole? none true text with
    | some n => return n
    | none => throw (.badNumber text)

def precedence? (op : String) : Option Nat :=
  [["*", "/", "%"], ["+", "-"], ["<<", ">>"], ["<", "<=", ">", ">="], ["==", "!="], ["&"], ["^"],
    ["|"]].findIdx? (·.contains op)

def apply (op : String) (a b : Int) : Except Fault Int :=
  match op with
  | "|" => return bitwise (· ||| ·) a b
  | "^" => return bitwise (· ^^^ ·) a b
  | "&" => return bitwise (· &&& ·) a b
  | "==" => return ofBool (a = b)
  | "!=" => return ofBool (a ≠ b)
  | "<=" => return ofBool (a ≤ b)
  | ">=" => return ofBool (b ≤ a)
  | "<" => return ofBool (a < b)
  | ">" => return ofBool (b < a)
  | "<<" => return bitwise (· <<< ·) a b
  | ">>" => return bitwise (· >>> ·) a b
  | "+" => return wrap (a + b)
  | "-" => return wrap (a - b)
  | "*" => return wrap (a * b)
  | "/" => if b = 0 then throw (.malformed "division by zero") else return wrap (Int.tdiv a b)
  | _ => if b = 0 then throw (.malformed "division by zero") else return wrap (Int.tmod a b)

def binary? : Evaluating (Option (String × Nat)) := do
  match ← peek with
  | some (.operator op) => return (precedence? op).map fun n => (op, n)
  | _ => return none

mutual

/-- An operand with the signs before it. In a part that does not count, nothing is looked up. -/
def operand (counts : Bool) : Nat → Evaluating Int
  | 0 => throw (.malformed "expecting primary")
  | fuel + 1 => do
    let t ← peek
    advance
    match t with
    | some (.number n) => return n
    | some (.name name) => if counts then valueOf name else return 0
    | some (.operator "(") => do
      let n ← expression counts fuel
      if !(← isNext ")") then throw (.malformed "expecting ')'")
      advance
      return n
    | some (.operator "+") => operand counts fuel
    | some (.operator "-") => return wrap (-(← operand counts fuel))
    | some (.operator "!") => return ofBool ((← operand counts fuel) = 0)
    | some (.operator "~") => return -(← operand counts fuel) - 1
    | _ => throw (.malformed "expecting primary")

/-- What follows an operand, up to operators that bind less than a limit. -/
def further (counts : Bool) (a : Int) (limit : Nat) : Nat → Evaluating Int
  | 0 => throw (.malformed "expecting primary")
  | fuel + 1 => do
    match ← binary? with
    | none => return a
    | some (op, level) =>
      if limit ≤ level then return a
      advance
      let b ← operand counts fuel
      let b ← further counts b level fuel
      let c ← if counts then liftM (apply op a b) else pure b
      further counts c limit fuel

def both (counts : Bool) : Nat → Evaluating Int
  | 0 => throw (.malformed "expecting primary")
  | fuel + 1 => do
    let a ← further counts (← operand counts fuel) 8 fuel
    if !(← isNext "&&") then return a
    advance
    let b ← both (counts && a ≠ 0) fuel
    return ofBool (a ≠ 0 && b ≠ 0)

def either (counts : Bool) : Nat → Evaluating Int
  | 0 => throw (.malformed "expecting primary")
  | fuel + 1 => do
    let a ← both counts fuel
    if !(← isNext "||") then return a
    advance
    let b ← either (counts && a = 0) fuel
    return ofBool (a ≠ 0 || b ≠ 0)

def choice (counts : Bool) : Nat → Evaluating Int
  | 0 => throw (.malformed "expecting primary")
  | fuel + 1 => do
    let a ← either counts fuel
    if !(← isNext "?") then return a
    advance
    let b ← expression (counts && a ≠ 0) fuel
    if !(← isNext ":") then throw (.malformed "expecting ':'")
    advance
    let c ← choice (counts && a = 0) fuel
    return if a ≠ 0 then b else c

def expression (counts : Bool) : Nat → Evaluating Int
  | 0 => throw (.malformed "expecting primary")
  | fuel + 1 => do
    match (← get).rest with
    | .name name :: .operator op :: rest =>
      if assignments.contains op then do
        modify fun s => { s with rest := rest }
        let n ← expression counts fuel
        if !counts then return n
        let n ← if op = "=" then pure n
          else do
            let old ← valueOf name
            liftM (apply (String.ofList op.toList.dropLast) old n)
        modify fun s => { s with assigned := (name, n) :: s.assigned }
        return n
      else choice counts fuel
    | _ => choice counts fuel

end

def evaluate (value? : String → Option String) (text : String) :
    Except Fault (Int × List (String × Int)) := do
  let s := text.toList
  let (n, state) ← (expression true (16 * s.length + 32)).run
    ⟨tokens s (s.length + 1), value?, []⟩
  if state.rest.isEmpty then return (n, state.assigned) else throw (.malformed "expecting EOF")

end Scaffold.Shell.Arithmetic
