import Scaffold.Pattern.Expr

/-!
Sequences and alternatives in their simplest form: empty parts are dropped, alternatives that take
one character each become a set, and what all alternatives begin with is taken out of them. The
meaning stays the same, and the states that recognize a pattern take less room.
-/
namespace Scaffold.Pattern

open Text

inductive Part where
  | text (cs : List Char)
  | other (e : Expr)
  deriving DecidableEq

namespace Expr

def ofChar (c : Char) : Expr := .char (.single c.toNat)

def chain : List Expr → Expr
  | [] => empty
  | [e] => e
  | e :: es => seq e (chain es)

def ofList (es : List Expr) : Expr :=
  chain (es.filter (· ≠ empty))

/-- Two sequences, one behind the other. Texts that meet become one. -/
def joinParts : List Part → List Part → List Part
  | [], qs => qs
  | [.text cs], .text ds :: qs => .text (cs ++ ds) :: qs
  | p :: ps, qs => p :: joinParts ps qs

def parts : Expr → List Part
  | empty => []
  | char set =>
    match set.member? with
    | some n => [.text [Char.ofNat n]]
    | none => [.other (char set)]
  | seq e f => joinParts e.parts f.parts
  | e => [.other e]

def ofParts (ps : List Part) : Expr :=
  ofList (ps.flatMap fun
    | .text cs => cs.map ofChar
    | .other e => [e])

def branches : Expr → List Expr
  | alt e f => e :: f.branches
  | e => [e]

def chainAlternatives : List Expr → Expr
  | [] => char .empty
  | [e] => e
  | e :: es => alt e (chainAlternatives es)

/-- The set of a single character when `alone` holds, and of any other set when it does not. -/
def set? (alone : Bool) : Expr → Option Ranges
  | char set => if set.member?.isSome == alone then some set else none
  | _ => none

def unionSet? (es : List Expr) : Option Ranges :=
  let union (alone : Bool) := (es.mapM (set? alone)).map fun sets => Ranges.ofList (sets.flatMap Ranges.toList)
  union true <|> union false

def commonParts : List Part → List Part → List Part
  | p :: ps, q :: qs => if p = q then p :: commonParts ps qs else []
  | _, _ => []

def commonStart? (es : List Expr) : Option (List Part × List Expr) :=
  match es.map parts with
  | [] => none
  | first :: more =>
    let common := more.foldl commonParts first
    if common.isEmpty || (first :: more).any (·.length < 2) then none
    else some (common, (first :: more).map fun ps => ofParts (ps.drop common.length))

def alternation : Nat → List Expr → Expr
  | 0, es => chainAlternatives es
  | fuel + 1, es =>
    match es.flatMap branches with
    | [] => char .empty
    | [e] => e
    | es =>
      match unionSet? es with
      | some set => char set
      | none =>
        match commonStart? es with
        | some (common, rest) => ofParts (common ++ [.other (alternation fuel rest)])
        | none => chainAlternatives es

def size : Expr → Nat
  | empty | char _ | look _ => 1
  | seq e f | alt e f => e.size + f.size + 1
  | rep _ _ _ e | group _ e => e.size + 1

/-- Alternatives, the preferred ones first. Taking out a common beginning makes them smaller. -/
def ofAlternatives (es : List Expr) : Expr :=
  alternation (es.foldl (fun n e => n + e.size) 1) es

end Expr

end Scaffold.Pattern
