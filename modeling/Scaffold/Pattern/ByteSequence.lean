import Scaffold.Text.Ranges

/-!
Sets of characters as sequences of ranges of bytes: a character of a range is encoded by bytes that
are, one after the other, in the ranges of one of its sequences.
-/
namespace Scaffold.Pattern

open Text

structure ByteRange where
  first : UInt8
  last : UInt8
  deriving DecidableEq

abbrev ByteSequence := List ByteRange

namespace ByteSequence

def lastOfLength : List Nat := [0x7F, 0x7FF, 0xFFFF]

/-- Where a range has to be divided because the last bytes of its characters, `count` of them, do not
run through all their values while the bytes before them change. -/
def cutAtBlock? (first last count : Nat) : Option Nat :=
  let block := Nat.pow 64 count
  if first / block = last / block then none
  else if first % block ≠ 0 then some (first / block * block + block - 1)
  else if last % block ≠ block - 1 then some (last / block * block - 1)
  else none

def cut? (first last : Nat) : Option Nat :=
  match lastOfLength.find? fun n => first ≤ n && n < last with
  | some n => some n
  | none => if last < 0x80 then none else [1, 2, 3].findSome? (cutAtBlock? first last)

def ofEnds (first last : Nat) : ByteSequence :=
  List.zipWith ByteRange.mk (String.utf8EncodeChar (Char.ofNat first)) (String.utf8EncodeChar (Char.ofNat last))

def ofBounds (first last : Nat) : List ByteSequence :=
  match cut? first last with
  | none => [ofEnds first last]
  | some cut =>
    if _ : first ≤ cut ∧ cut < last then ofBounds first cut ++ ofBounds (cut + 1) last
    else [ofEnds first last]
termination_by last - first

/-- The sequences of a range, without the code points that are no characters. -/
def ofRange (range : Nat × Nat) : List ByteSequence :=
  let (first, last) := range
  if first < 0xD800 && 0xDFFF < last then ofBounds first 0xD7FF ++ ofBounds 0xE000 last
  else ofBounds first last

def ofSet (set : Ranges) : List ByteSequence :=
  set.toList.flatMap ofRange

end ByteSequence

end Scaffold.Pattern
