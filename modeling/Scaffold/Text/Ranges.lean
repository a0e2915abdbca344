/-!
Finite sets of code points as ascending closed ranges, and the compact text in which the tables of
this library write them: gap and length of each range in turn, in hexadecimal.
-/
namespace Scaffold.Text

/-- Ranges of code points in ascending order, each given by its first and last member. -/
structure Ranges where
  bounds : Array (Nat × Nat)
  deriving DecidableEq

namespace Ranges

def hexValue (c : Char) : Nat :=
  if c.isDigit then c.toNat - '0'.toNat else c.toLower.toNat - 'a'.toNat + 10

def hexNumber (s : List Char) : Nat :=
  s.foldl (fun n c => 16 * n + hexValue c) 0

def words : List Char → List (List Char)
  | [] => []
  | c :: cs =>
    if c = ' ' || c = '\n' then words cs
    else
      match cs, words cs with
      | d :: _, word :: more =>
        if d = ' ' || d = '\n' then [c] :: word :: more else (c :: word) :: more
      | _, more => [c] :: more

def numbers (table : String) : List Nat :=
  (words table.toList).map hexNumber

/-- Reads gap and length of one range after another; `next` is the first code point not yet passed. -/
def pairs (next : Nat) : List Nat → List (Nat × Nat)
  | gap :: more :: rest => (next + gap, next + gap + more) :: pairs (next + gap + more + 1) rest
  | _ => []

def ofTable (table : String) : Ranges :=
  ⟨(pairs 0 (numbers table)).toArray⟩

/-- Binary search for `n` among the ranges from `lo` up to but not including `hi`. -/
def search (bounds : Array (Nat × Nat)) (n lo hi : Nat) : Bool :=
  if _ : lo < hi then
    let mid := (lo + hi) / 2
    match bounds[mid]? with
    | none => false
    | some (first, last) =>
      if n < first then search bounds n lo mid
      else if last < n then search bounds n (mid + 1) hi
      else true
  else false
termination_by hi - lo

def contains (r : Ranges) (n : Nat) : Bool :=
  search r.bounds n 0 r.bounds.size

def toList (r : Ranges) : List (Nat × Nat) := r.bounds.toList

def coalesce : List (Nat × Nat) → List (Nat × Nat)
  | [] => []
  | (first, last) :: rest => go first last rest
where
  go (first last : Nat) : List (Nat × Nat) → List (Nat × Nat)
    | [] => [(first, last)]
    | (a, b) :: rest =>
      if a ≤ last + 1 then go first (max last b) rest else (first, last) :: go a b rest

def ofList (ranges : List (Nat × Nat)) : Ranges :=
  ⟨(coalesce (ranges.mergeSort fun a b => a.1 ≤ b.1)).toArray⟩

def empty : Ranges := ⟨#[]⟩

def isEmpty (r : Ranges) : Bool := r.bounds.isEmpty

def single (n : Nat) : Ranges := ⟨#[(n, n)]⟩

def member? (r : Ranges) : Option Nat :=
  match r.toList with
  | [(first, last)] => if first = last then some first else none
  | _ => none

def union (r s : Ranges) : Ranges :=
  ofList (r.toList ++ s.toList)

def gaps (top next : Nat) : List (Nat × Nat) → List (Nat × Nat)
  | [] => if next ≤ top then [(next, top)] else []
  | (first, last) :: rest =>
    if next < first then (next, first - 1) :: gaps top (last + 1) rest
    else gaps top (last + 1) rest

def complement (top : Nat) (r : Ranges) : Ranges :=
  ⟨(gaps top 0 r.toList).toArray⟩

def inter (top : Nat) (r s : Ranges) : Ranges :=
  complement top (union (complement top r) (complement top s))

def diff (top : Nat) (r s : Ranges) : Ranges :=
  complement top (union (complement top r) s)

def symmDiff (top : Nat) (r s : Ranges) : Ranges :=
  union (diff top r s) (diff top s r)

def count (r : Ranges) : Nat :=
  r.toList.foldl (fun n (first, last) => n + (last + 1 - first)) 0

end Ranges

end Scaffold.Text
