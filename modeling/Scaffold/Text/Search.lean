/-!
Finding a text within another one, from the left.
-/
namespace Scaffold.Text

/-- What follows `start` at the front of a text. -/
def dropStart? : List Char → List Char → Option (List Char)
  | [], s => some s
  | _ :: _, [] => none
  | a :: start, b :: s => if a = b then dropStart? start s else none

/-- What stands before and after the first occurrence of `needle`. -/
def cut? (needle : List Char) (s : List Char) : Option (List Char × List Char) :=
  match dropStart? needle s with
  | some rest => some ([], rest)
  | none =>
    match s with
    | [] => none
    | c :: cs => (cut? needle cs).map fun (before, after) => (c :: before, after)

def occursIn (needle s : List Char) : Bool :=
  (cut? needle s).isSome

def contains (s needle : String) : Bool :=
  occursIn needle.toList s.toList

def replaceFirst (needle new s : List Char) : List Char :=
  match cut? needle s with
  | some (before, after) => before ++ new ++ after
  | none => s

def pieces (separator : Char) (s : List Char) : List (List Char) :=
  match s with
  | [] => [[]]
  | c :: cs =>
    match pieces separator cs with
    | [] => [[c]]
    | piece :: more => if c = separator then [] :: piece :: more else (c :: piece) :: more

end Scaffold.Text
