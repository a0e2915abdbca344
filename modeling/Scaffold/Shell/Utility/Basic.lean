import Scaffold.Shell.Stream

/-!
What the programs that scripts call have in common: their options, their complaints and their input.
-/
namespace Scaffold.Shell.Utility

open Act

/-! Names in complaints. -/

def isShellSign (c : Char) : Bool := " !\"$&'()*;<=>?[\\]^\x60|\x7b\x7d\t\n\r".contains c

def isPrintable (c : Char) : Bool := 32 ≤ c.toNat && c.toNat < 127

def quotedChar (c : Char) : String :=
  if c = '\'' then "'\\''"
  else if isPrintable c then c.toString
  else
    let escape := match c with
      | '\n' => "\\n"
      | '\t' => "\\t"
      | '\r' => "\\r"
      | c =>
        let ds := Nat.toDigits 8 c.toNat
        "\\" ++ String.ofList (List.replicate (3 - ds.length) '0' ++ ds)
    s!"'$'{escape}''"

def quoted (name : String) : String :=
  let s := name.toList
  if s.contains '\'' && s.all isPrintable && !s.any fun c => "\"$\x60\\!".contains c then
    "\"" ++ name ++ "\""
  else "'" ++ String.join (s.map quotedChar) ++ "'"

/-- A name that is only put between quotes where a shell would need them. -/
def shown (name : String) : String :=
  let s := name.toList
  let isPlain := !s.isEmpty && s.all (fun c => isPrintable c && !isShellSign c) &&
    !s.head?.any fun c => c = '#' || c = '~'
  if isPlain then name else quoted name

/-! Options. -/

structure Flag where
  letter : Char
  name : String := ""
  isValued : Bool := false

structure Request where
  options : List (Char × String)
  operands : List String

namespace Request

def has (r : Request) (letter : Char) : Bool := r.options.any (·.1 = letter)

/-- The value of an option, of which the last one counts. -/
def value? (r : Request) (letter : Char) : Option String := r.options.reverse.lookup letter

def values (r : Request) (letter : Char) : List String :=
  (r.options.filter (·.1 = letter)).map (·.2)

end Request

inductive OptionFault where
  | unknownLetter (letter : Char)
  | unknownName (text : String)
  | missingValue (letter : Char)

def OptionFault.message : OptionFault → String
  | unknownLetter letter => s!"invalid option -- '{letter}'"
  | unknownName text => s!"unrecognized option '{text}'"
  | missingValue letter => s!"option requires an argument -- '{letter}'"

def readLetters (known : List Flag) :
    List Char → List String → Except OptionFault (List (Char × String) × List String)
  | [], args => return ([], args)
  | c :: s, args =>
    match known.find? (·.letter = c) with
    | none => throw (.unknownLetter c)
    | some o =>
      if o.isValued then
        match s, args with
        | [], [] => throw (.missingValue c)
        | [], value :: args => return ([(c, value)], args)
        | s, args => return ([(c, String.ofList s)], args)
      else do
        let (os, args) ← readLetters known s args
        return ((c, "") :: os, args)

def readLongName (known : List Flag) (arg : String) (args : List String) :
    Except OptionFault (List (Char × String) × List String) :=
  let name := (arg.toList.drop 2).takeWhile (· ≠ '=')
  let value := arg.toList.drop (name.length + 3)
  match known.find? fun o => o.name ≠ "" && o.name = String.ofList name with
  | none => throw (.unknownName arg)
  | some o =>
    if !o.isValued || name.length + 2 < arg.length then
      return ([(o.letter, String.ofList value)], args)
    else
      match args with
      | [] => throw (.missingValue o.letter)
      | value :: args => return ([(o.letter, value)], args)

/-- Reads arguments; options may stand between the others unless `isOrdered`. -/
def readRequest (known : List Flag) (isOrdered : Bool) :
    List String → Nat → Except OptionFault Request
  | [], _ | _, 0 => return ⟨[], []⟩
  | arg :: args, fuel + 1 => do
    if arg = "--" then return ⟨[], args⟩
    let read ←
      if arg.startsWith "--" then some <$> readLongName known arg args
      else if arg.startsWith "-" && arg ≠ "-" then
        some <$> readLetters known (arg.toList.drop 1) args
      else pure none
    match read with
    | some (os, args) =>
      let r ← readRequest known isOrdered args fuel
      return { r with options := os ++ r.options }
    | none =>
      if isOrdered then return ⟨[], arg :: args⟩
      let r ← readRequest known isOrdered args fuel
      return { r with operands := arg :: r.operands }

def misuse (program text : String) (code : Nat) : Act Nat := do
  complain s!"{program}: {text}"
  complain s!"Try '{program} --help' for more information."
  return code

def withOptions (program : String) (known : List Flag) (code : Nat) (args : List String)
    (act : Request → Act Nat) : Act Nat :=
  match readRequest known false args (args.length + 1) with
  | .ok r => act r
  | .error f => misuse program f.message code

def withLeadingOptions (program : String) (known : List Flag) (code : Nat) (args : List String)
    (act : Request → Act Nat) : Act Nat :=
  match readRequest known true args (args.length + 1) with
  | .ok r => act r
  | .error f => misuse program f.message code

/-- Options that are known by their letters alone, with a colon after those that take a value. -/
def letters (spec : String) : List Flag :=
  further spec.toList
where
  further : List Char → List Flag
    | c :: ':' :: s => ⟨c, "", true⟩ :: further s
    | c :: s => ⟨c, "", false⟩ :: further s
    | [] => []

/-! Input. -/

def readPath (path : String) : Act (Except SystemFault String) := do
  if path = "-" then return .ok (ByteText.ofBytes (← readInput))
  match ← openPath path .read with
  | .error f => return .error f
  | .ok channel =>
    match channel with
    | .file n =>
      let m ← get
      let isDirectory := (m.commons.openFiles[n]?).any fun f => m.commons.files.isDirectory f.place
      if isDirectory then return .error .isADirectory
      return .ok (ByteText.ofBytes (← readAllFrom channel))
    | channel => return .ok (ByteText.ofBytes (← readAllFrom channel))

/-- Reads paths one after another, or the input when there are none, and complains about those that
cannot be read. -/
def readPaths (paths : List String) (complaint : String → SystemFault → String) :
    Act (List (String × String) × Bool) := do
  let paths := if paths.isEmpty then ["-"] else paths
  let read ← paths.mapM fun path => do
    match ← readPath path with
    | .ok text => return some (path, text)
    | .error f => do
      complain (complaint path f)
      return none
  return (read.reduceOption, read.all (·.isSome))

def plainComplaint (program path : String) (f : SystemFault) : String :=
  s!"{program}: {shown path}: {f.text}"

/-! Lines. -/

/-- The lines of a text; the last one need not be ended. -/
def linesOf (text : String) : List String :=
  let lines := text.toList.splitOn '\n'
  let lines := if lines.getLast? = some [] then lines.dropLast else lines
  lines.map String.ofList

def linesWithEnds (text : String) : List String :=
  let lines := linesOf text
  if text.endsWith "\n" then lines.map (· ++ "\n")
  else lines.dropLast.map (· ++ "\n") ++ lines.getLast?.toList

def writeLines (lines : List String) : Act Unit :=
  writeText (String.join (lines.map (· ++ "\n")))

def padded (width : Nat) (n : Nat) : String :=
  let text := toString n
  "".pushn ' ' (width - text.length) ++ text

def eachPath (paths : List String) (act : String → Act (Option String)) : Act Nat := do
  let codes ← paths.mapM fun path => do
    match ← act path with
    | none => return 0
    | some complaint => do
      complain complaint
      return 1
  return codes.foldl max 0

def faultComplaint (front : String) : Except SystemFault α → Option String
  | .ok _ => none
  | .error f => some (front ++ ": " ++ f.text)

end Scaffold.Shell.Utility
