import Scaffold.Shell.Arithmetic
import Scaffold.Shell.Binding
import Scaffold.Shell.Field

/-!
The expansion of words: parameters, the output of scripts and arithmetic, then the splitting of what
was not quoted, and at last the paths that match.
-/
namespace Scaffold.Shell.Expansion

abbrev Runner := Script → Act ByteArray

/-! Parts. -/

/-- The output of a script as a value: without bytes that are zero and without the line breaks at its
end. -/
def outputText (bytes : ByteArray) : String :=
  let bytes := bytes.toList.filter (· ≠ 0)
  ByteText.ofBytes (bytes.reverse.dropWhile (· = 10)).reverse

def arithmetic (text : String) : Act String := do
  let p ← Act.own
  match Arithmetic.evaluate (fun name => p.bindings[name]?.bind (·.value)) text with
  | .error (.malformed what) => Act.fail s!"arithmetic expression: {what}: \"{text}\""
  | .error (.badNumber text) => Act.fail s!"Illegal number: {text}"
  | .ok (n, assigned) => do
    assigned.reverse.forM fun (name, n) => Act.setVariable name (some (toString n))
    return toString n

def cut (value : String) (pattern : List Mark) (atStart longest : Bool) : String :=
  let s := value.toList
  let count := if atStart then Glob.startLength? pattern s longest
    else Glob.endLength? pattern s longest
  match count with
  | none => value
  | some n => String.ofList (if atStart then s.drop n else s.take (s.length - n))

def separators : Act (List Char) := do
  return ((← Act.value? "IFS").getD Field.defaultSeparators).toList

def isArguments (name : String) : Bool := name = "@" || name = "*"

/-- All arguments: each for itself where a word is split, and between separators otherwise. -/
def argumentStretches (isSplit isQuoted : Bool) (name : String) : Act (List Stretch) := do
  let args := (← Act.own).arguments
  if isSplit && (name = "@" || !isQuoted) then
    if args.isEmpty then return []
    let pieces := (args.map fun a => (Glob.marks a isQuoted).map Piece.mark).intersperse [.gap]
    return [⟨pieces.flatten, if isQuoted then .atGaps else .atSeparators⟩]
  else
    let separator := match ← Act.value? "IFS" with
      | some s => String.ofList (s.toList.take 1)
      | none => " "
    return [.ofValue (String.intercalate separator args) isQuoted]

def demand (name : String) (isEmptyMissing : Bool) (message : Option String) : Act α := do
  let ending := if isEmptyMissing then " or null" else ""
  let message := message.getD ("parameter not set" ++ ending)
  Act.fail s!"{name}: {message}"

mutual

/-- A part of a word, which may be split; literal texts are split too when they stand for a value. -/
def part (run : Runner) (isSplit isValue : Bool) : Part → Act (List Stretch)
  | .literal text isQuoted => do
    let ms := text.map fun c => Piece.mark ⟨c, isQuoted⟩
    if isQuoted then return [⟨if text.isEmpty then [.quotes] else ms, .never⟩]
    else return [⟨ms, if isValue then .atSeparators else .never⟩]
  | .output script isQuoted => return [.ofValue (outputText (← run script)) isQuoted]
  | .arithmetic e isQuoted => do
    let text := Stretch.text (← parts run false false e)
    return [.ofValue (← arithmetic text) isQuoted]
  | .parameter name change orEmpty word isQuoted => do
    if change = .unknown then Act.fail "Bad substitution"
    let found ← if isArguments name then pure (some (" ".intercalate (← Act.own).arguments))
      else Act.parameter? name
    let isMissing := found.isNone || (orEmpty && found = some "")
    let checked : Act Unit := do
      if found.isNone && (← Act.isSet 'u') then demand name false none
    let value : Act (List Stretch) := do
      if isArguments name then argumentStretches isSplit isQuoted name
      else return [.ofValue ((← Act.parameter? name).getD "") isQuoted]
    match change with
    | .default => if isMissing then parts run isSplit true word else value
    | .alternative => if isMissing then return [] else parts run isSplit true word
    | .assign =>
      if isMissing then
        Act.setVariable name (some (Stretch.text (← parts run false false word)))
      value
    | .demand => do
      if isMissing then
        let text := Stretch.text (← parts run false false word)
        demand name orEmpty (if word.isEmpty then none else some text)
      value
    | .length => do
      checked
      let text ← if isArguments name then
          pure (Stretch.text (← argumentStretches false isQuoted name))
        else pure (found.getD "")
      return [.ofValue (toString text.length) isQuoted]
    | .dropStart longest => do
      checked
      let pattern := Stretch.marks (← parts run false false word)
      return [.ofValue (cut (found.getD "") pattern true longest) isQuoted]
    | .dropEnd longest => do
      checked
      let pattern := Stretch.marks (← parts run false false word)
      return [.ofValue (cut (found.getD "") pattern false longest) isQuoted]
    | _ => do
      checked
      value

def parts (run : Runner) (isSplit isValue : Bool) : List Part → Act (List Stretch)
  | [] => return []
  | p :: ps => return (← part run isSplit isValue p) ++ (← parts run isSplit isValue ps)

end

/-! Home directories. -/

def home? (user : List Char) : Act (Option String) := do
  match user with
  | [] => Act.value? "HOME"
  | user => return if user = "root".toList then some "/root" else none

/-- A literal text whose beginning may stand for a home directory; `isLast` says that nothing of the
word follows, and `inList` that a colon ends a path. -/
def homeParts (text : List Char) (isLast inList : Bool) : Act (List Part) := do
  match text with
  | '~' :: rest =>
    let user := rest.takeWhile fun c => c ≠ '/' && !(inList && c = ':')
    let after := rest.drop user.length
    if after.isEmpty && !isLast then return [.literal text false]
    match ← home? user with
    | none => return [.literal text false]
    | some home =>
      let front := Part.literal home.toList true
      return if after.isEmpty then [front] else [front, .literal after false]
  | text => return [.literal text false]

def withHome : Word → Act Word
  | .literal text false :: rest => return (← homeParts text rest.isEmpty false) ++ rest
  | w => return w

def colonPieces (text : List Char) : List (List Char) :=
  match text with
  | [] => []
  | c :: s =>
    if c = ':' then [c] :: colonPieces s
    else
      match colonPieces s with
      | [] => [[c]]
      | p :: ps => (c :: p) :: ps

def withHomes (w : Word) (isStart : Bool) : Act Word :=
  match w with
  | .literal text false :: rest => do
    let pieces := colonPieces text
    let last := pieces.length - 1
    let parts ← pieces.zipIdx.mapM fun (p, i) =>
      if i = 0 && !isStart then pure [.literal p false]
      else homeParts p (i < last || rest.isEmpty) true
    return parts.flatten ++ (← withHomes rest (text.getLast? = some ':'))
  | p :: rest => return p :: (← withHomes rest false)
  | [] => return []

/-! Words. -/

def word (run : Runner) (w : Word) : Act (List String) := do
  let stretches ← parts run true false (← withHome w)
  let fields := Field.split (← separators) none stretches
  if ← Act.isSet 'f' then return fields.map Glob.text
  let m ← get
  return fields.flatMap (Glob.expand m.commons.files m.own.directory)

def text (run : Runner) (w : Word) : Act String :=
  return Stretch.text (← parts run false false (← withHome w))

def plainText (run : Runner) (w : Word) : Act String :=
  return Stretch.text (← parts run false false w)

def value (run : Runner) (w : Word) : Act String :=
  return Stretch.text (← parts run false false (← withHomes w true))

def pattern (run : Runner) (w : Word) : Act (List Mark) :=
  return Stretch.marks (← parts run false false (← withHome w))

end Scaffold.Shell.Expansion
