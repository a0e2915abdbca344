import Scaffold.Number.Decimal
import Scaffold.Shell.Utility.Basic

/-!
Programs on the lines of texts: they show, count, sort and choose them.
-/
namespace Scaffold.Shell.Utility

open Act

/-! Showing. -/

def visible (c : Char) : String :=
  let low (n : Nat) : String :=
    if n < 32 then "^" ++ (Char.ofNat (n + 64)).toString
    else if n = 127 then "^?"
    else (Char.ofNat n).toString
  if c = '\t' || c = '\n' then c.toString
  else if c.toNat < 128 then low c.toNat
  else "M-" ++ low (c.toNat - 128)

/-- Lines with numbers and marks, as options ask; the state is the number of the last line and
whether it was empty. -/
def decorate (r : Request) (state : Nat × Bool) (line : String) : (Nat × Bool) × String :=
  let (number, afterEmpty) := state
  let isEnded := line.endsWith "\n"
  let text := if isEnded then line.dropEnd 1 |>.toString else line
  let isEmpty := text.isEmpty && isEnded
  if r.has 's' && isEmpty && afterEmpty then (state, "")
  else
    let showsAll := r.has 'A'
    let isNumbered := (r.has 'n' && !r.has 'b') || (r.has 'b' && !isEmpty)
    let number := if isNumbered then number + 1 else number
    let front := if isNumbered then padded 6 number ++ "\t" else ""
    let shownText :=
      if showsAll || r.has 'v' || r.has 'e' || r.has 't' then
        String.join (text.toList.map visible)
      else text
    let shownText :=
      if showsAll || r.has 'T' || r.has 't' then shownText.replace "\t" "^I" else shownText
    let ending := if showsAll || r.has 'E' || r.has 'e' then "$" else ""
    ((number, isEmpty), front ++ shownText ++ (if isEnded then ending ++ "\n" else ""))

def decorated (r : Request) (text : String) : String :=
  let (_, shown) := (linesWithEnds text).foldl (fun (state, shown) line =>
    let (state, line) := decorate r state line
    (state, line :: shown)) ((0, false), [])
  String.join shown.reverse

/-- Whether a path means the file that the output is written to, and there is something in it. -/
def isOutput (path : String) : Act Bool := do
  let c ← commons
  let some (.file n) ← channel? 1 | return false
  match c.openFiles[n]?, Files.locate c.files (← own).directory (systemPath path) with
  | some f, .ok place =>
    return path ≠ "-" && f.place = place && (← fileBytes f).size ≠ 0
  | _, _ => return false

def cat (args : List String) : Act Nat :=
  let known := [⟨'n', "number", false⟩, ⟨'b', "number-nonblank", false⟩, ⟨'s', "squeeze-blank", false⟩,
    ⟨'A', "show-all", false⟩, ⟨'E', "show-ends", false⟩, ⟨'T', "show-tabs", false⟩,
    ⟨'v', "show-nonprinting", false⟩, ⟨'e', "", false⟩, ⟨'t', "", false⟩, ⟨'u', "", false⟩]
  withOptions "cat" known 1 args fun r => do
    if r.operands.isEmpty && (← channel? 0).isNone then
      complain "cat: -: Bad file descriptor"
      complain "cat: closing standard input: Bad file descriptor"
      return 1
    let paths := if r.operands.isEmpty then ["-"] else r.operands
    let loops ← paths.filterM isOutput
    let paths := paths.filter (!loops.contains ·)
    loops.forM fun path => complain s!"cat: {shown path}: input file is output file"
    if paths.isEmpty then return 1
    let (texts, isComplete) ← readPaths paths (plainComplaint "cat")
    let text := String.join (texts.map (·.2))
    writeText (if r.options.isEmpty then text else decorated r text)
    ofBool (isComplete && loops.isEmpty)

/-! Beginnings and ends. -/

/-- Old options that are only a number, as options with a letter. -/
def numbered (args : List String) : List String :=
  match args with
  | arg :: rest =>
    let s := arg.toList
    if s.head? = some '-' && 1 < s.length && (s.drop 1).all Char.isDigit then
      "-n" :: String.ofList (s.drop 1) :: rest
    else args
  | [] => []

def countOf? (text : String) : Option (Option Char × Nat) :=
  let s := text.toList
  let sign := s.head?.filter fun c => c = '-' || c = '+'
  let s := if sign.isSome then s.drop 1 else s
  let ds := s.takeWhile Char.isDigit
  let unit? := match String.ofList (s.drop ds.length) with
    | "" => some 1
    | "b" => some 512
    | "k" | "K" => some 1024
    | "M" => some (1024 * 1024)
    | _ => none
  if ds.isEmpty then none else unit?.map fun unit => (sign, Decimal.digitsValue ds * unit)

def eachPart (program : String) (r : Request) (part : String → String) : Act Nat := do
  let paths := if r.operands.isEmpty then ["-"] else r.operands
  let isNamed := (1 < paths.length && !r.has 'q') || r.has 'v'
  let codes ← paths.zipIdx.mapM fun (path, i) => do
    match ← readPath path with
    | .error f => do
      complain (if f = .isADirectory then s!"{program}: error reading '{path}': {f.text}"
        else s!"{program}: cannot open {quoted path} for reading: {f.text}")
      return 1
    | .ok text => do
      let name := if path = "-" then "standard input" else path
      if isNamed then writeText ((if i = 0 then "" else "\n") ++ s!"==> {name} <==\n")
      writeText (part text)
      return 0
  return codes.foldl max 0

/-- What the input holds after a part of it has been used is left to others, where one can go back. -/
def returnRest (r : Request) (text part : String) : Act Unit := do
  if r.operands.isEmpty || r.operands = ["-"] then
    if let some channel ← channel? 0 then
      giveBack channel (ByteText.bytes (String.ofList (text.toList.drop part.length)))

def takeText (isBytes isBut : Bool) (n : Nat) (text : String) : String :=
  let keep (size : Nat) := if isBut then size - n else n
  if isBytes then String.ofList (text.toList.take (keep text.length))
  else
    let lines := linesWithEnds text
    String.join (lines.take (keep lines.length))

def dropText (isBytes isFrom : Bool) (n : Nat) (text : String) : String :=
  let skipped (size : Nat) := if isFrom then n - 1 else size - n
  if isBytes then String.ofList (text.toList.drop (skipped text.length))
  else
    let lines := linesWithEnds text
    String.join (lines.drop (skipped lines.length))

def askedCount (r : Request) : Bool × Option (Option Char × Nat) :=
  match r.value? 'c' with
  | some text => (true, countOf? text)
  | none =>
    match r.value? 'n' with
    | some text => (false, countOf? text)
    | none => (false, some (none, 10))

def partFlags : List Flag :=
  [⟨'n', "lines", true⟩, ⟨'c', "bytes", true⟩, ⟨'q', "quiet", false⟩, ⟨'v', "verbose", false⟩,
    ⟨'f', "follow", false⟩, ⟨'z', "zero-terminated", false⟩]

def badCount (program : String) (r : Request) (isBytes : Bool) : Act Nat := do
  let text := (r.value? (if isBytes then 'c' else 'n')).getD ""
  let kind := if isBytes then "bytes" else "lines"
  complain s!"{program}: invalid number of {kind}: {quoted text}"
  return 1

def head (args : List String) : Act Nat :=
  withOptions "head" partFlags 1 (numbered args) fun r => do
    match askedCount r with
    | (isBytes, none) => badCount "head" r isBytes
    | (isBytes, some (sign, n)) =>
      let part := takeText isBytes (sign = some '-') n
      if r.operands.isEmpty then
        let text := ByteText.ofBytes (← readInput)
        writeText (part text)
        returnRest r text (part text)
        return 0
      else eachPart "head" r part

def tail (args : List String) : Act Nat :=
  let args := match args with
    | arg :: rest =>
      let s := arg.toList
      if s.head? = some '+' && 1 < s.length && (s.drop 1).all Char.isDigit then "-n" :: arg :: rest
      else numbered args
    | [] => []
  withOptions "tail" partFlags 1 args fun r => do
    match askedCount r with
    | (isBytes, none) => badCount "tail" r isBytes
    | (isBytes, some (sign, n)) => eachPart "tail" r (dropText isBytes (sign = some '+') n)

/-! Counting. -/

def isSpace (c : Char) : Bool := c = ' ' || (9 ≤ c.toNat && c.toNat ≤ 13)

def wordCount (text : String) : Nat :=
  (text.toList.foldl (fun (n, inWord) c =>
    if isSpace c then (n, false) else (if inWord then n else n + 1, true)) (0, false)).1

structure Counts where
  lines : Nat
  words : Nat
  bytes : Nat
  longest : Nat

namespace Counts

def ofText (text : String) : Counts where
  lines := text.toList.count '\n'
  words := wordCount text
  bytes := text.length
  longest := ((linesOf text).map (·.length)).foldl max 0

def add (a b : Counts) : Counts :=
  ⟨a.lines + b.lines, a.words + b.words, a.bytes + b.bytes, max a.longest b.longest⟩

def chosen (r : Request) (c : Counts) : List Nat :=
  let all := [('l', c.lines), ('w', c.words), ('m', c.bytes), ('c', c.bytes), ('L', c.longest)]
  let isStandard := !r.options.any fun o => "lwmcL".contains o.1
  (all.filter fun (letter, _) =>
    if isStandard then "lwc".contains letter else r.has letter).map (·.2)

end Counts

def fileSize? (path : String) : Act (Option Nat) := do
  let c ← commons
  if path = "-" then
    match ← channel? 0 with
    | some .input => return if c.inputIsFile then some c.console.input.length else none
    | some (.file n) =>
      match c.openFiles[n]? with
      | some f => return some (← fileBytes f).size
      | none => return none
    | _ => return none
  else
    match Files.lookup? c.files (← own).directory (systemPath path) with
    | some (.file bytes _) => return some bytes.size
    | _ => return none

/-- How many digits the counts of paths are given: as many as the bytes of all files need, and more
for what is no file. -/
def countWidth (r : Request) (paths : List String) : Act Nat := do
  if (Counts.chosen r ⟨0, 0, 0, 0⟩).length = 1 && paths.length = 1 then return 1
  let m ← get
  let sizes ← paths.mapM fun path => do
    let isThere := path = "-" || Files.has m.commons.files m.own.directory (systemPath path)
    if isThere then some <$> fileSize? path else return none
  let sizes := sizes.reduceOption
  let size := (sizes.filterMap id).foldl (· + ·) 0
  return max (if sizes.any (·.isNone) then 7 else 1) (toString size).length

def countWords (args : List String) : Act Nat :=
  let known := [⟨'l', "lines", false⟩, ⟨'w', "words", false⟩, ⟨'m', "chars", false⟩,
    ⟨'c', "bytes", false⟩, ⟨'L', "max-line-length", false⟩]
  withOptions "wc" known 1 args fun r => do
    let paths := if r.operands.isEmpty then ["-"] else r.operands
    let width ← countWidth r paths
    let say (c : Counts) (name : String) : Act Unit :=
      writeLine (String.intercalate " " ((c.chosen r).map (padded width)) ++
        (if name.isEmpty then "" else " " ++ name))
    let counted ← paths.mapM fun path => do
      let name := if r.operands.isEmpty then "" else path
      match ← readPath path with
      | .ok text => do
        let c := Counts.ofText text
        say c name
        return (true, c)
      | .error f => do
        complain (plainComplaint "wc" path f)
        if f = .isADirectory then say ⟨0, 0, 0, 0⟩ name
        return (false, ⟨0, 0, 0, 0⟩)
    if 1 < paths.length then say ((counted.map (·.2)).foldl Counts.add ⟨0, 0, 0, 0⟩) "total"
    ofBool (counted.all (·.1))

/-! Sorting. -/

def sortFields (separator : Option Char) (line : List Char) : List (List Char) :=
  match separator with
  | some c => line.splitOn c
  | none => blanks line line.length
where
  blanks : List Char → Nat → List (List Char)
    | [], _ | _, 0 => []
    | s, fuel + 1 =>
      let space := s.takeWhile fun c => c = ' ' || c = '\t'
      let rest := s.drop space.length
      let word := rest.takeWhile fun c => c ≠ ' ' && c ≠ '\t'
      (space ++ word) :: blanks (rest.drop word.length) fuel

structure SortKey where
  first : Nat
  firstChar : Nat
  last : Option (Nat × Nat)
  letters : List Char

def keyPlace? (s : List Char) : Option (Nat × Option Nat × List Char) :=
  let ds := s.takeWhile Char.isDigit
  let rest := s.drop ds.length
  if ds.isEmpty then none
  else
    match rest with
    | '.' :: rest =>
      let cs := rest.takeWhile Char.isDigit
      some (Decimal.digitsValue ds, some (Decimal.digitsValue cs), rest.drop cs.length)
    | rest => some (Decimal.digitsValue ds, none, rest)

def SortKey.ofText? (text : String) : Option SortKey := do
  let s := text.toList
  let start := s.takeWhile (· ≠ ',')
  let (first, firstChar, letters) ← keyPlace? start
  if first = 0 then none
  if start.length = s.length then return ⟨first, firstChar.getD 1, none, letters⟩
  let (last, lastChar, more) ← keyPlace? (s.drop (start.length + 1))
  return ⟨first, firstChar.getD 1, some (last, lastChar.getD 0), letters ++ more⟩

def SortKey.part (k : SortKey) (separator : Option Char) (skipsBlanks : Bool) (line : List Char) :
    List Char :=
  let fields := sortFields separator line
  let joiner := separator.toList
  let blank (c : Char) : Bool := c = ' ' || c = '\t'
  let cutFront (field : List Char) : List Char :=
    let field := if skipsBlanks then field.dropWhile blank else field
    field.drop (k.firstChar - 1)
  let chosen := fields.drop (k.first - 1)
  let chosen := match k.last with
    | some (last, _) => chosen.take (last + 1 - k.first)
    | none => chosen
  let chosen := match k.last with
    | some (last, char + 1) =>
      if chosen.length = last + 1 - k.first then
        chosen.dropLast ++ (chosen.getLast?.map (·.take (char + 1))).toList
      else chosen
    | _ => chosen
  match chosen with
  | [] => []
  | field :: rest => ((cutFront field) :: rest).intersperse joiner |>.flatten

def numericValue (s : List Char) : Int × List Char :=
  let s := s.dropWhile fun c => c = ' ' || c = '\t'
  let isNegative := s.head? = some '-'
  let s := if isNegative then s.drop 1 else s
  let ds := s.takeWhile Char.isDigit
  let part := match s.drop ds.length with
    | '.' :: rest => (rest.takeWhile Char.isDigit).reverse.dropWhile (· = '0') |>.reverse
    | _ => []
  let whole : Int := (ds.foldl (fun n c => 10 * n + (c.toNat - '0'.toNat)) 0 : Nat)
  (if isNegative then -whole else whole, if isNegative then '-' :: part else part)

def compareNumeric (a b : List Char) : Ordering :=
  let scaled (s : List Char) (places : Nat) : Int :=
    let (whole, part) := numericValue s
    let isNegative := part.head? = some '-'
    let part := if isNegative then part.drop 1 else part
    let digits := part ++ List.replicate (places - part.length) '0'
    let fraction : Int := (digits.foldl (fun n c => 10 * n + (c.toNat - '0'.toNat)) 0 : Nat)
    whole * (Int.pow 10 places) + (if isNegative then -fraction else fraction)
  let places := max (numericValue a).2.length (numericValue b).2.length
  compare (scaled a places) (scaled b places)

def compareChars (a b : List Char) : Ordering := compare (String.ofList a) (String.ofList b)

def compareBy (letters : List Char) (a b : List Char) : Ordering :=
  let has (c : Char) := letters.contains c
  let prepared (s : List Char) : List Char :=
    let s := if has 'b' then s.dropWhile fun c => c = ' ' || c = '\t' else s
    let s := if has 'd' then s.filter fun c => c.isAlphanum || c = ' ' || c = '\t' else s
    if has 'f' then s.map Char.toUpper else s
  let order :=
    if has 'n' || has 'g' || has 'h' then compareNumeric a b
    else compareChars (prepared a) (prepared b)
  if has 'r' then order.swap else order

def sort (args : List String) : Act Nat :=
  let known := [⟨'r', "reverse", false⟩, ⟨'n', "numeric-sort", false⟩, ⟨'u', "unique", false⟩,
    ⟨'f', "ignore-case", false⟩, ⟨'b', "ignore-leading-blanks", false⟩, ⟨'s', "stable", false⟩,
    ⟨'k', "key", true⟩, ⟨'t', "field-separator", true⟩, ⟨'o', "output", true⟩, ⟨'c', "check", false⟩,
    ⟨'d', "dictionary-order", false⟩, ⟨'g', "", false⟩, ⟨'h', "", false⟩, ⟨'V', "", false⟩,
    ⟨'z', "", false⟩, ⟨'m', "merge", false⟩, ⟨'C', "", false⟩]
  withOptions "sort" known 2 args fun r => do
    let (texts, isComplete) ← readPaths r.operands fun path f =>
      (if f = .isADirectory then "sort: read failed: " else "sort: cannot read: ") ++
        s!"{shown path}: {f.text}"
    if !isComplete then return 2
    let lines := (texts.flatMap fun (_, text) => linesOf text).map String.toList
    let general := "nfbdghr".toList.filter r.has
    let separator := (r.value? 't').bind (·.toList.head?)
    let keys := (r.values 'k').filterMap SortKey.ofText?
    let order (a b : List Char) : Ordering :=
      if keys.isEmpty then compareBy general a b
      else keys.foldl (fun found k =>
        let letters := if k.letters.isEmpty then general else k.letters
        let part := k.part separator (letters.contains 'b')
        found.then (compareBy letters (part a) (part b))) .eq
    let isUnique := r.has 'u'
    let isReversed := r.has 'r'
    let last (a b : List Char) : Ordering :=
      if r.has 's' || isUnique then .eq
      else if isReversed then (compareChars a b).swap else compareChars a b
    let before (a b : List Char) : Bool := ((order a b).then (last a b)) ≠ .gt
    if r.has 'c' || r.has 'C' then
      let pairs := lines.zip (lines.drop 1)
      match pairs.findIdx? fun (a, b) => !before a b || (isUnique && order a b = .eq) with
      | none => return 0
      | some i => do
        let name := (r.operands.head?).getD "-"
        let line := String.ofList ((lines[i + 1]?).getD [])
        if r.has 'c' then complain s!"sort: {name}:{i + 2}: disorder: {line}"
        return 1
    let sorted := lines.mergeSort before
    let kept := if isUnique then firsts order sorted else sorted
    let text := String.join (kept.map fun line => String.ofList line ++ "\n")
    match r.value? 'o' with
    | none => do
      writeText text
      return 0
    | some path => do
      let result ← onFiles fun here => Files.write here (systemPath path) ⟨(ByteText.bytes text).toArray⟩
      match faultComplaint s!"sort: open failed: {shown path}" result with
      | none => return 0
      | some c => do
        complain c
        return 2
where
  firsts (order : List Char → List Char → Ordering) : List (List Char) → List (List Char)
    | a :: b :: lines =>
      if order a b = .eq then firsts order (a :: lines) else a :: firsts order (b :: lines)
    | lines => lines
  termination_by lines => lines.length

/-! Repeated lines. -/

def runs (isSame : String → String → Bool) : List String → List (String × Nat)
  | [] => []
  | line :: lines =>
    match runs isSame lines with
    | (next, n) :: rest =>
      if isSame line next then (line, n + 1) :: rest else (line, 1) :: (next, n) :: rest
    | [] => [(line, 1)]

def unique (args : List String) : Act Nat :=
  let known := [⟨'c', "count", false⟩, ⟨'d', "repeated", false⟩, ⟨'u', "unique", false⟩,
    ⟨'i', "ignore-case", false⟩, ⟨'f', "skip-fields", true⟩, ⟨'s', "skip-chars", true⟩,
    ⟨'w', "check-chars", true⟩]
  withOptions "uniq" known 1 args fun r => do
    let (texts, isComplete) ← readPaths (r.operands.take 1) (plainComplaint "uniq")
    if !isComplete then return 1
    let count (letter : Char) := (r.value? letter).bind String.toNat?
    let compared (line : String) : List Char :=
      let s := ((sortFields none line.toList).drop ((count 'f').getD 0)).flatten
      let s := if r.has 'f' then s else line.toList
      let s := s.drop ((count 's').getD 0)
      let s := (count 'w').elim s s.take
      if r.has 'i' then s.map Char.toLower else s
    let found := runs (fun a b => compared a = compared b) (texts.flatMap fun (_, t) => linesOf t)
    let kept := found.filter fun (_, n) => (!r.has 'd' || 1 < n) && (!r.has 'u' || n = 1)
    let lines := kept.map fun (line, n) => if r.has 'c' then padded 7 n ++ " " ++ line else line
    match r.operands[1]? with
    | none => writeLines lines
    | some path => do
      let text := String.join (lines.map (· ++ "\n"))
      let _ ← onFiles fun here => Files.write here (systemPath path) ⟨(ByteText.bytes text).toArray⟩
    return 0

/-- Two sorted texts beside each other: the lines of the first, of the second, and of both. -/
def compareSorted : List String → List String → Nat → List (Nat × String)
  | [], bs, _ => bs.map fun b => (2, b)
  | as, [], _ => as.map fun a => (1, a)
  | _, _, 0 => []
  | a :: as, b :: bs, fuel + 1 =>
    if a = b then (3, a) :: compareSorted as bs fuel
    else if a < b then (1, a) :: compareSorted as (b :: bs) fuel
    else (2, b) :: compareSorted (a :: as) bs fuel

def common (args : List String) : Act Nat :=
  withOptions "comm" (letters "123") 1 args fun r => do
    let (texts, isComplete) ← readPaths r.operands (plainComplaint "comm")
    if !isComplete then return 1
    let side (i : Nat) := linesOf (((texts[i]?).map (·.2)).getD "")
    let columns := [1, 2, 3].filter fun n => !r.has (Char.ofNat ('0'.toNat + n))
    let all := compareSorted (side 0) (side 1) ((side 0).length + (side 1).length + 1)
    writeLines <| all.filterMap fun (n, line) =>
      (columns.idxOf? n).map fun i => "".pushn '\t' i ++ line
    return 0

/-! Other arrangements. -/

def reverseLines (args : List String) : Act Nat := do
  let (texts, isComplete) ← readPaths args fun path f => s!"rev: cannot open {path}: {f.text}"
  texts.forM fun (_, text) =>
    writeText <| String.join <| (linesWithEnds text).map fun line =>
      let body := line.toList.filter (· ≠ '\n')
      String.ofList body.reverse ++ (if line.endsWith "\n" then "\n" else "")
  ofBool isComplete

def lastLinesFirst (args : List String) : Act Nat := do
  let (texts, isComplete) ← readPaths args fun path f =>
    s!"tac: failed to open {quoted path} for reading: {f.text}"
  texts.forM fun (_, text) => writeText (String.join (linesWithEnds text).reverse)
  ofBool isComplete

def numberLines (args : List String) : Act Nat :=
  withOptions "nl" (letters "b:n:w:s:v:i:") 1 args fun r => do
    let (texts, isComplete) ← readPaths r.operands (plainComplaint "nl")
    let isAll := r.value? 'b' = some "a"
    let width := ((r.value? 'w').bind String.toNat?).getD 6
    let separator := (r.value? 's').getD "\t"
    let first := ((r.value? 'v').bind String.toNat?).getD 1
    let lines := texts.flatMap fun (_, text) => linesOf text
    let (_, shown) := lines.foldl (fun (n, shown) line =>
      if line.isEmpty && !isAll then
        (n, "".pushn ' ' (width + separator.length) :: shown)
      else (n + 1, (padded width n ++ separator ++ line) :: shown)) (first, [])
    writeLines shown.reverse
    ofBool isComplete

def tee (args : List String) : Act Nat :=
  withOptions "tee" [⟨'a', "append", false⟩, ⟨'i', "", false⟩] 1 args fun r => do
    let bytes ← readInput
    write bytes
    eachPath r.operands fun path => do
      match ← openPath path (if r.has 'a' then .append else .write true) with
      | .error f => return some s!"tee: {shown path}: {f.text}"
      | .ok channel => do
        let _ ← writeTo channel bytes
        return none

def paste (args : List String) : Act Nat :=
  withOptions "paste" [⟨'d', "delimiters", true⟩, ⟨'s', "serial", false⟩] 1 args fun r => do
    let (texts, isComplete) ← readPaths r.operands (plainComplaint "paste")
    if !isComplete then return 1
    let marks := ((r.value? 'd').getD "\t").toList
    let join (fields : List String) : String :=
      match fields with
      | [] => ""
      | first :: rest =>
        String.join (first :: rest.zipIdx.map fun (field, i) =>
          String.ofList ((marks[i % marks.length]?).toList) ++ field)
    let columns := texts.map fun (_, text) => linesOf text
    if r.has 's' then writeLines (columns.map join)
    else
      let height := (columns.map (·.length)).foldl max 0
      writeLines <| (List.range height).map fun i => join (columns.map fun c => c.getD i "")
    return 0

def fold (args : List String) : Act Nat :=
  withOptions "fold" (letters "w:sb") 1 args fun r => do
    let (texts, isComplete) ← readPaths r.operands (plainComplaint "fold")
    let width := max 1 (((r.value? 'w').bind String.toNat?).getD 80)
    let pieces (line : String) : List String :=
      let s := line.toList
      let count := (s.length + width - 1) / width
      if s.isEmpty then [""]
      else (List.range count).map fun i => String.ofList ((s.drop (i * width)).take width)
    texts.forM fun (_, text) => writeLines ((linesOf text).flatMap pieces)
    ofBool isComplete

end Scaffold.Shell.Utility
