import Scaffold.Text.Search

/-!
Paths as they are written: names between slashes. Empty parts and dots do not count as names, except
for a dot at the front.
-/
namespace Scaffold.Path

open Text

def isAbsolute (path : String) : Bool :=
  path.startsWith "/"

/-- A path below a base; an absolute path stays what it is. -/
def join (base path : String) : String :=
  if isAbsolute path then path
  else if base.isEmpty || base.endsWith "/" then base ++ path
  else base ++ "/" ++ path

def parts (path : String) : List String :=
  ((pieces '/' path.toList).filter (!·.isEmpty)).map String.ofList

def endsInSlash (path : String) : Bool :=
  path.endsWith "/"

/-- The front of a path that is not made of names: a slash, a dot or nothing; and what follows. -/
def splitFront (s : List Char) : List Char × List Char :=
  match s with
  | '/' :: s => (['/'], s)
  | '.' :: s => if s.head?.all (· = '/') then (['.'], s) else ([], '.' :: s)
  | s => ([], s)

def cutName (reversed : List Char) : List Char × List Char :=
  (reversed.takeWhile (· ≠ '/'), (reversed.dropWhile (· ≠ '/')).drop 1)

theorem cutName_length (s : List Char) : (cutName s).2.length ≤ s.length := by
  have : (s.dropWhile (· ≠ '/')).length ≤ s.length := (List.dropWhile_sublist _).length_le
  simp only [cutName, List.length_drop]
  omega

theorem cutName_cons_length (c : Char) (s : List Char) :
    (cutName (c :: s)).2.length < (c :: s).length := by
  by_cases h : c = '/'
  · simp [cutName, h]
  · have := cutName_length s
    simp only [cutName, List.length_drop, List.length_cons, ne_eq, h, not_false_eq_true,
      decide_true, List.dropWhile_cons_of_pos] at this ⊢
    omega

def dropNameless (reversed : List Char) : List Char :=
  match reversed with
  | [] => []
  | c :: s =>
    let name := (cutName (c :: s)).1
    if name = [] || name = ['.'] then dropNameless (cutName (c :: s)).2 else c :: s
termination_by reversed.length
decreasing_by exact cutName_cons_length _ _

def parent? (path : String) : Option String :=
  let (front, body) := splitFront path.toList
  match dropNameless body.reverse with
  | [] => if front = ['.'] then some "" else none
  | reversed => some (String.ofList (front ++ (dropNameless (cutName reversed).2).reverse))

def fileName? (path : String) : Option String :=
  let (_, body) := splitFront path.toList
  match dropNameless body.reverse with
  | [] => none
  | reversed =>
    let name := String.ofList (cutName reversed).1.reverse
    if name = ".." then none else some name

/-- What follows the last point in a file's name, unless the point is its first character. -/
def extension? (path : String) : Option String := do
  let name := (← fileName? path).toList.reverse
  let ending := name.takeWhile (· ≠ '.')
  let before := (name.dropWhile (· ≠ '.')).drop 1
  if name.contains '.' && !before.isEmpty then some (String.ofList ending.reverse) else none

def ofNames (names : List String) : String :=
  "/" ++ String.intercalate "/" names

end Scaffold.Path
