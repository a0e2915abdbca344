/-!
Reading bytes as text where not all of them need be UTF-8: each longest part that begins like a
character but is none becomes one replacement character.
-/
namespace Scaffold.Text

def replacementChar : Char := '\uFFFD'

def isContinuation (b : UInt8) : Bool :=
  0x80 ≤ b && b ≤ 0xBF

/-- How many bytes follow `first` in a character, and the range of the second of them. -/
def sequenceRule (first : UInt8) : Option (Nat × UInt8 × UInt8) :=
  if first < 0x80 then some (0, 0, 0)
  else if 0xC2 ≤ first && first ≤ 0xDF then some (1, 0x80, 0xBF)
  else if first == 0xE0 then some (2, 0xA0, 0xBF)
  else if first == 0xED then some (2, 0x80, 0x9F)
  else if 0xE1 ≤ first && first ≤ 0xEF then some (2, 0x80, 0xBF)
  else if first == 0xF0 then some (3, 0x90, 0xBF)
  else if 0xF1 ≤ first && first ≤ 0xF3 then some (3, 0x80, 0xBF)
  else if first == 0xF4 then some (3, 0x80, 0x8F)
  else none

def addContinuation (n : Nat) (b : UInt8) : Nat :=
  64 * n + b.toNat % 64

/-- The character that begins with `first` and how many of the bytes after `first` belong to it. -/
def readChar (first : UInt8) (rest : List UInt8) : Char × Nat :=
  match sequenceRule first with
  | none => (replacementChar, 0)
  | some (0, _, _) => (Char.ofNat first.toNat, 0)
  | some (more, low, high) =>
    match rest with
    | [] => (replacementChar, 0)
    | second :: rest =>
      if low ≤ second && second ≤ high then
        let others := (rest.take (more - 1)).takeWhile isContinuation
        if others.length + 1 = more then
          let lead := first.toNat % Nat.pow 2 (6 - more)
          (Char.ofNat ((second :: others).foldl addContinuation lead), more)
        else (replacementChar, 1 + others.length)
      else (replacementChar, 0)

def decodeLossy : List UInt8 → List Char
  | [] => []
  | first :: rest =>
    let (c, more) := readChar first rest
    c :: decodeLossy (rest.drop more)
termination_by bytes => bytes.length
decreasing_by simp only [List.length_drop, List.length_cons]; omega

def ofBytesLossy (bytes : ByteArray) : String :=
  String.ofList (decodeLossy bytes.toList)

end Scaffold.Text
