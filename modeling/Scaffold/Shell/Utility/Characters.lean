import Scaffold.Number.Decimal
import Scaffold.Shell.Escape
import Scaffold.Shell.Glob
import Scaffold.Shell.Utility.Basic

/-!
Programs on the characters of texts, and those that make texts of numbers and of names.
-/
namespace Scaffold.Shell.Utility

open Act

/-! Sets of characters. -/

inductive SetPart where
  | single (c : Char)
  | several (cs : List Char)
  /-- A character that is repeated as often as it is needed, or so many times. -/
  | repeated (c : Char) (count : Option Nat)

def classChars (name : String) : List Char :=
  ((List.range 256).map Char.ofNat).filter (Glob.isIn name)

def setParts : List Char → Nat → List SetPart
  | [], _ | _, 0 => []
  | '\\' :: s, fuel + 1 =>
    match Escape.read? s with
    | some (c, rest) => .single c :: setParts rest fuel
    | none =>
      match s with
      | c :: s => .single c :: setParts s fuel
      | [] => [.single '\\']
  | '[' :: s, fuel + 1 =>
    match s with
    | ':' :: rest =>
      match Glob.classNames.find? fun name => (name ++ ":]").toList.isPrefixOf rest with
      | some name => .several (classChars name) :: setParts (rest.drop (name.length + 2)) fuel
      | none => .single '[' :: setParts s fuel
    | '=' :: c :: '=' :: ']' :: rest => .single c :: setParts rest fuel
    | c :: '*' :: rest =>
      let ds := rest.takeWhile Char.isDigit
      match rest.drop ds.length with
      | ']' :: after =>
        let count := if ds.isEmpty then none else some (Decimal.digitsValue ds)
        .repeated c count :: setParts after fuel
      | _ => .single '[' :: setParts s fuel
    | s => .single '[' :: setParts s fuel
  | c :: s, fuel + 1 => .single c :: setParts s fuel

/-- The characters of a set; those that are repeated fill it up to a size. -/
def setChars (size : Nat) : List SetPart → Nat → List Char
  | [], _ | _, 0 => []
  | .single a :: .single '-' :: .single b :: ps, fuel + 1 =>
    ((List.range (b.toNat + 1 - a.toNat)).map fun n => Char.ofNat (a.toNat + n)) ++
      setChars size ps fuel
  | .single c :: ps, fuel + 1 => c :: setChars size ps fuel
  | .several cs :: ps, fuel + 1 => cs ++ setChars size ps fuel
  | .repeated c count :: ps, fuel + 1 =>
    let rest := setChars size ps fuel
    List.replicate (count.getD (size - rest.length)) c ++ rest

def charSet (size : Nat) (text : String) : List Char :=
  let s := text.toList
  setChars size (setParts s (s.length + 1)) (s.length + 1)

/-- The character that stands for another one; the last of the second set stands for all that have
none of their own. -/
def counterpart (set1 set2 : List Char) (c : Char) : Char :=
  match set1.idxOf? c with
  | none => c
  | some i => ((set2[i]?) <|> set2.getLast?).getD c

def squeeze (isIn : Char → Bool) : List Char → List Char
  | a :: b :: s => if a = b && isIn a then squeeze isIn (b :: s) else a :: squeeze isIn (b :: s)
  | s => s

def translate (args : List String) : Act Nat :=
  let known := [⟨'d', "delete", false⟩, ⟨'s', "squeeze-repeats", false⟩, ⟨'c', "complement", false⟩,
    ⟨'C', "", false⟩, ⟨'t', "truncate-set1", false⟩]
  withLeadingOptions "tr" known 1 args fun r => do
    match r.operands with
    | [] => misuse "tr" "missing operand" 1
    | first :: others =>
      if others.isEmpty && !r.has 'd' && !r.has 's' then
        let reason := "\nTwo strings must be given when translating."
        return ← misuse "tr" (s!"missing operand after {quoted first}" ++ reason) 1
      let plain := charSet 0 first
      let isTurned := r.has 'c' || r.has 'C'
      let set1 := if isTurned then ((List.range 256).map Char.ofNat).filter (!plain.contains ·)
        else plain
      let set2 := charSet set1.length (others.headD "")
      let set1 := if r.has 't' then set1.take set2.length else set1
      let text := (ByteText.ofBytes (← readInput)).toList
      let isTranslating := !others.isEmpty && !r.has 'd'
      let text := if r.has 'd' then text.filter (!set1.contains ·)
        else if isTranslating then text.map (counterpart set1 set2)
        else text
      let squeezed := if others.isEmpty then set1 else set2
      let text := if r.has 's' then squeeze squeezed.contains text else text
      writeText (String.ofList text)
      return 0

/-! Columns. -/

def rangeList? (text : String) : Option (List (Nat × Option Nat)) :=
  (text.toList.splitOn ',').mapM fun piece =>
    let number? (s : List Char) : Option Nat :=
      if s.isEmpty || !s.all Char.isDigit then none else some (Decimal.digitsValue s)
    match piece.splitOn '-' with
    | [s] => (number? s).map fun n => (n, some n)
    | [[], t] => (number? t).map fun n => (1, some n)
    | [s, []] => (number? s).map fun n => (n, none)
    | [s, t] => (number? s).bind fun a => (number? t).map fun b => (a, some b)
    | _ => none

def isInRanges (ranges : List (Nat × Option Nat)) (n : Nat) : Bool :=
  ranges.any fun (a, b) => a ≤ n && b.elim true (n ≤ ·)

def cut (args : List String) : Act Nat :=
  let known := [⟨'b', "bytes", true⟩, ⟨'c', "characters", true⟩, ⟨'f', "fields", true⟩,
    ⟨'d', "delimiter", true⟩, ⟨'s', "only-delimited", false⟩, ⟨'v', "complement", false⟩,
    ⟨'o', "output-delimiter", true⟩, ⟨'n', "", false⟩]
  withOptions "cut" known 1 args fun r => do
    let misuse (text : String) : Act Nat := Utility.misuse "cut" text 1
    let list? := r.value? 'f' <|> r.value? 'c' <|> r.value? 'b'
    match list? with
    | none => misuse "you must specify a list of bytes, characters, or fields"
    | some list =>
      match rangeList? list with
      | none => misuse (if r.has 'f' then "invalid field value " ++ quoted list
          else "invalid byte/character position " ++ quoted list)
      | some ranges =>
        if ranges.any fun (a, _) => a = 0 then
          return ← misuse (if r.has 'f' then "fields are numbered from 1"
            else "byte/character positions are numbered from 1")
        let (texts, isComplete) ← readPaths r.operands (plainComplaint "cut")
        let isChosen (i : Nat) : Bool := isInRanges ranges (i + 1) != r.has 'v'
        let delimiter := ((r.value? 'd').bind (·.toList.head?)).getD '\t'
        let joiner := (r.value? 'o').getD delimiter.toString
        let cutLine (line : String) : Option String :=
          let s := line.toList
          if r.has 'f' then
            if !s.contains delimiter then (if r.has 's' then none else some line)
            else
              let fields := (s.splitOn delimiter).zipIdx.filter fun (_, i) => isChosen i
              some (String.intercalate joiner (fields.map fun (field, _) => String.ofList field))
          else some (String.ofList ((s.zipIdx.filter fun (_, i) => isChosen i).map (·.1)))
        texts.forM fun (_, text) => writeText <| String.join <|
          ((text.toList.splitOn '\n').map String.ofList |> fun lines =>
            (if lines.getLast? = some "" then lines.dropLast else lines)).filterMap fun line =>
              (cutLine line).map (· ++ "\n")
        ofBool isComplete

/-! Numbers. -/

/-- A number with digits after a point: as a whole number of its last unit, and how many digits there
are after the point. -/
def decimal? (text : String) : Option (Int × Nat) :=
  let s := text.toList
  let sign := s.head?.filter fun c => c = '-' || c = '+'
  let s := if sign.isSome then s.drop 1 else s
  let whole := s.takeWhile Char.isDigit
  let rest := s.drop whole.length
  let part := rest.drop 1
  let isGood := (rest.isEmpty || rest.head? = some '.') && part.all Char.isDigit &&
    !(whole.isEmpty && part.isEmpty)
  let n : Int := (Decimal.digitsValue (whole ++ part) : Nat)
  if isGood then some (if sign = some '-' then -n else n, part.length) else none

def decimalText (places : Nat) (n : Int) : String :=
  let ds := Nat.toDigits 10 n.natAbs
  let ds := List.replicate (places + 1 - ds.length) '0' ++ ds
  let point := if places = 0 then [] else ['.']
  let (whole, part) := ds.splitAt (ds.length - places)
  String.ofList ((if n < 0 then ['-'] else []) ++ whole ++ point ++ part)

/-- Options of numbers, among which negative numbers are none. -/
def sequenceOptions : List String → Nat → Request
  | [], _ | _, 0 => ⟨[], []⟩
  | arg :: args, fuel + 1 =>
    match arg.toList with
    | ['-', 'w'] => let r := sequenceOptions args fuel; { r with options := ('w', "") :: r.options }
    | ['-', 's'] =>
      let r := sequenceOptions (args.drop 1) fuel
      { r with options := ('s', args.headD "") :: r.options }
    | '-' :: 's' :: s =>
      let r := sequenceOptions args fuel
      { r with options := ('s', String.ofList s) :: r.options }
    | _ => ⟨[], arg :: args⟩

def sequence (args : List String) : Act Nat := do
  let r := sequenceOptions args args.length
  if let some arg := r.operands.find? fun arg => (decimal? arg).isNone then
    return ← misuse "seq" s!"invalid floating point argument: {quoted arg}" 1
  let numbers := r.operands.filterMap decimal?
  if numbers.isEmpty then return ← misuse "seq" "missing operand" 1
  if h : 3 < r.operands.length then
    return ← misuse "seq" s!"extra operand {quoted r.operands[3]}" 1
  let given := if numbers.length = 1 then (1, 0) :: numbers else numbers
  let places := ((given.dropLast).map (·.2)).foldl max 0
  let scale := (given.map (·.2)).foldl max 0
  let scaled := given.map fun (n, p) => n * Int.pow 10 (scale - p)
  let first := scaled.headD 1
  let step := if scaled.length = 3 then (scaled[1]?).getD 1 else Int.pow 10 scale
  let last := scaled.getLast?.getD 1
  if step = 0 then
    let text := (r.operands[1]?).getD ""
    return ← misuse "seq" s!"invalid Zero increment value: {quoted text}" 1
  let size := if 0 < step then last - first else first - last
  let all : List Int :=
    if size < 0 then []
    else (List.range (size.toNat / step.natAbs + 1)).map fun (n : Nat) => first + step * (n : Int)
  let texts := all.map fun n => decimalText places (n.tdiv (Int.pow 10 (scale - places)))
  let width := (texts.map (·.length)).foldl max 0
  let widen (text : String) : String :=
    if text.startsWith "-" then
      "-" ++ "".pushn '0' (width - text.length) ++ (text.drop 1).toString
    else "".pushn '0' (width - text.length) ++ text
  let texts := if r.has 'w' then texts.map widen else texts
  if !texts.isEmpty then writeText (String.intercalate ((r.value? 's').getD "\n") texts ++ "\n")
  return 0

def byteDigits (radix width : Nat) (b : UInt8) : String :=
  let ds := Nat.toDigits radix b.toNat
  String.ofList (List.replicate (width - ds.length) '0' ++ ds)

def byteName (b : UInt8) : String :=
  let c := Char.ofNat b.toNat
  match b with
  | 0 => "\\0"
  | 7 => "\\a"
  | 8 => "\\b"
  | 9 => "\\t"
  | 10 => "\\n"
  | 11 => "\\v"
  | 12 => "\\f"
  | 13 => "\\r"
  | b => if isPrintable c then c.toString else byteDigits 8 3 b

def dumpForm (r : Request) : Nat × Nat × (List UInt8 → String) :=
  let word (bytes : List UInt8) : Nat :=
    bytes.zipIdx.foldl (fun n (b, i) => n + b.toNat * Nat.pow 256 i) 0
  let digits (radix width : Nat) (bytes : List UInt8) : String :=
    let ds := Nat.toDigits radix (word bytes)
    String.ofList (List.replicate (width - ds.length) '0' ++ ds)
  let single (f : UInt8 → String) (bytes : List UInt8) : String := String.join (bytes.map f)
  match r.value? 't' with
  | some "x1" => (3, 1, single (byteDigits 16 2))
  | some "o1" => (4, 1, single (byteDigits 8 3))
  | some "u1" => (4, 1, single fun b => toString b.toNat)
  | some "d1" => (5, 1, single fun b => toString b.toInt8.toInt)
  | some "c" => (4, 1, single byteName)
  | some "x2" => (5, 2, digits 16 4)
  | _ =>
    if r.has 'c' then (4, 1, single byteName)
    else if r.has 'b' then (4, 1, single (byteDigits 8 3))
    else if r.has 'x' then (5, 2, digits 16 4)
    else (7, 2, digits 8 6)

def dump (args : List String) : Act Nat :=
  withOptions "od" (letters "A:t:N:j:cbxvw:") 1 args fun r => do
    let (texts, isComplete) ← readPaths r.operands (plainComplaint "od")
    let bytes := ByteText.bytes (String.join (texts.map (·.2)))
    let bytes := bytes.drop (((r.value? 'j').bind String.toNat?).getD 0)
    let bytes := ((r.value? 'N').bind String.toNat?).elim bytes bytes.take
    let (width, group, form) := dumpForm r
    let radix := match r.value? 'A' with | some "d" => 10 | some "x" => 16 | _ => 8
    let address (n : Nat) : String :=
      if r.value? 'A' = some "n" then ""
      else
        let ds := Nat.toDigits radix n
        String.ofList (List.replicate ((if radix = 16 then 6 else 7) - ds.length) '0' ++ ds)
    let groups (line : List UInt8) : List (List UInt8) :=
      (List.range ((line.length + group - 1) / group)).map fun i => (line.drop (i * group)).take group
    let field (bytes : List UInt8) : String :=
      let text := form bytes
      "".pushn ' ' (width - text.length) ++ text
    (List.range ((bytes.length + 15) / 16)).forM fun i => do
      let line := (bytes.drop (16 * i)).take 16
      writeText (address (16 * i) ++ String.join ((groups line).map field) ++ "\n")
    if r.value? 'A' ≠ some "n" then writeText (address bytes.length ++ "\n")
    ofBool isComplete

/-! Names. -/

def lastName (path : String) : String :=
  if path.isEmpty then "" else ((Path.parts path).getLast?).getD "/"

def withoutEnding (name ending : String) : String :=
  if name.endsWith ending && name ≠ ending then
    String.ofList (name.toList.take (name.length - ending.length))
  else name

def baseName (args : List String) : Act Nat :=
  withLeadingOptions "basename" (letters "as:z") 1 args fun r => do
    if r.operands.isEmpty then return ← misuse "basename" "missing operand" 1
    let isMany := r.has 'a' || r.has 's'
    if !isMany && 2 < r.operands.length then
      let extra := (r.operands[2]?).getD ""
      return ← misuse "basename" s!"extra operand {quoted extra}" 1
    let ending := if isMany then (r.value? 's').getD "" else (r.operands[1]?).getD ""
    let paths := if isMany then r.operands else r.operands.take 1
    writeLines (paths.map fun path => withoutEnding (lastName path) ending)
    return 0

def parentName (path : String) : String :=
  let s := path.toList
  let trimmed := s.reverse.dropWhile (· = '/')
  let front := (trimmed.dropWhile (· ≠ '/')).dropWhile (· = '/')
  if trimmed.isEmpty then (if s.isEmpty then "." else "/")
  else if front.isEmpty then (if s.head? = some '/' then "/" else ".")
  else String.ofList front.reverse

def directoryName (args : List String) : Act Nat :=
  withOptions "dirname" (letters "z") 1 args fun r => do
    if r.operands.isEmpty then return ← misuse "dirname" "missing operand" 1
    writeLines (r.operands.map parentName)
    return 0

/-! Text for other programs. -/

def base64Digits : List Char :=
  "ABCDEFGHIJKLMNOPQRSTUVWXYZabcdefghijklmnopqrstuvwxyz0123456789+/".toList

/-- Three bytes as four digits; fewer are filled up with equals signs. -/
def base64 : List UInt8 → List Char
  | [] => []
  | [a] => group a 0 0 2 ++ ['=', '=']
  | [a, b] => group a b 0 3 ++ ['=']
  | a :: b :: c :: rest => group a b c 4 ++ base64 rest
where
  group (a b c : UInt8) (count : Nat) : List Char :=
    let n := a.toNat * 65536 + b.toNat * 256 + c.toNat
    [n / 262144, n / 4096 % 64, n / 64 % 64, n % 64].take count |>.map fun i =>
      (base64Digits[i]?).getD '='

def unbase64 (text : List Char) : List UInt8 :=
  let ds := text.filterMap base64Digits.idxOf?
  let count := ds.length * 6 / 8
  let n := ds.foldl (fun n d => 64 * n + d) 0 / Nat.pow 2 (ds.length * 6 % 8)
  ((List.range count).map fun i => UInt8.ofNat (n / Nat.pow 256 i % 256)).reverse

def encode (args : List String) : Act Nat :=
  withOptions "base64" [⟨'d', "decode", false⟩, ⟨'w', "wrap", true⟩, ⟨'i', "", false⟩] 1 args
    fun r => do
      let (texts, isComplete) ← readPaths (r.operands.take 1) (plainComplaint "base64")
      if !isComplete then return 1
      let text := String.join (texts.map (·.2))
      if r.has 'd' then write (unbase64 text.toList)
      else
        let width := ((r.value? 'w').bind String.toNat?).getD 76
        let ds := base64 (ByteText.bytes text)
        if width = 0 then writeText (String.ofList ds)
        else
          let count := (ds.length + width - 1) / width
          writeLines ((List.range count).map fun i =>
            String.ofList ((ds.drop (i * width)).take width))
      return 0

end Scaffold.Shell.Utility
