/-!
Escapes with a backslash in texts that are printed.
-/
namespace Scaffold.Shell.Escape

def isOctal (c : Char) : Bool := '0' ≤ c && c ≤ '7'

def octal (ds : List Char) : Char :=
  Char.ofNat (ds.foldl (fun n c => 8 * n + (c.toNat - '0'.toNat)) 0 % 256)

def letter? (c : Char) : Option Char :=
  match c with
  | 'a' => some '\x07'
  | 'b' => some '\x08'
  | 't' => some '\t'
  | 'n' => some '\n'
  | 'v' => some '\x0b'
  | 'f' => some '\x0c'
  | 'r' => some '\r'
  | '\\' => some '\\'
  | _ => none

def read? (s : List Char) : Option (Char × List Char) :=
  match s with
  | [] => none
  | c :: rest =>
    match letter? c with
    | some c => some (c, rest)
    | none =>
      let ds := (s.take 3).takeWhile isOctal
      if ds.isEmpty then none else some (octal ds, s.drop ds.length)

/-- A text with escapes, in which a zero may stand before octal digits; and whether it says that
nothing may follow. -/
def unescaped (text : List Char) : List Char × Bool :=
  further text [] text.length
where
  further : List Char → List Char → Nat → List Char × Bool
    | '\\' :: 'c' :: _, done, _ => (done.reverse, true)
    | '\\' :: s, done, fuel + 1 =>
      let s := match s with
        | '0' :: d :: rest => if isOctal d then d :: rest else s
        | s => s
      match read? s with
      | some (c, rest) => further rest (c :: done) fuel
      | none => further s ('\\' :: done) fuel
    | c :: s, done, fuel + 1 => further s (c :: done) fuel
    | _, done, _ => (done.reverse, false)

end Scaffold.Shell.Escape
