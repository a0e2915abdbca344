import Scaffold.Shell.Builtin.Options
import Scaffold.Shell.Field

/-!
The commands of a shell on its variables, its arguments and its settings.
-/
namespace Scaffold.Shell.Builtin

open Act

/-! Variables. -/

def showVariables (front : String) (isShown : Variable → Bool) : Act Unit := do
  (← own).bindings.toList.forM fun (name, v) => do
    if isShown v then
      let front := if front.isEmpty then "" else front ++ " "
      writeLine (front ++ name ++ v.value.elim "" fun value => "=" ++ Act.quoted value)

def splitSetting (arg : String) : String × Option String :=
  let s := arg.toList
  let name := s.takeWhile (· ≠ '=')
  (String.ofList name,
    if name.length < s.length then some (String.ofList (s.drop (name.length + 1))) else none)

def mark (command : String) (isMarked : Variable → Bool) (marked : Variable → Variable)
    (args : List String) : Act Nat := do
  let (os, names) ← options "" "p" args
  if !os.isEmpty || names.isEmpty then
    showVariables command isMarked
    return 0
  names.forM fun arg => do
    let (name, value) := splitSetting arg
    let old ← binding? name
    if value.isSome || old.isNone then setVariable name value
    putVariable name (marked ((← binding? name).getD .unset))
  return 0

def exportVariables : List String → Act Nat :=
  mark "export" (·.isExported) fun v => { v with isExported := true }

def protectVariables : List String → Act Nat :=
  mark "readonly" (·.isReadOnly) fun v => { v with isReadOnly := true }

def makeLocal (args : List String) : Act Nat := do
  if (← own).calls = 0 then fail "not in a function"
  args.forM fun arg => do
    let (name, value) := splitSetting arg
    if name = "-" then return
    if !Token.isName name.toList then fail s!"{name}: bad variable name"
    hide name
    if value.isSome then setVariable name value
  return 0

def unset (args : List String) : Act Nat := do
  let (os, names) ← options "" "fv" args
  let isFunction := (os.getLast?.map (·.1)) = some 'f'
  names.forM fun name => do
    if isFunction then modifyOwn fun p => { p with functions := p.functions.erase name }
    else
      if !Token.isName name.toList then fail s!"{name}: bad variable name"
      unsetVariable name
  return 0

/-! Settings. -/

def settings : List (String × Char) :=
  [("errexit", 'e'), ("noglob", 'f'), ("ignoreeof", 'I'), ("interactive", 'i'), ("monitor", 'm'),
    ("noexec", 'n'), ("stdin", 's'), ("xtrace", 'x'), ("verbose", 'v'), ("vi", 'V'), ("emacs", 'E'),
    ("noclobber", 'C'), ("allexport", 'a'), ("notify", 'b'), ("nounset", 'u'),
    ("privileged", 'p')]

/-- Settings without a letter, which do nothing. -/
def idleSettings : List String := ["nolog", "debug"]

def change (letter : Char) (isOn : Bool) : Act Unit := do
  if !settings.any (·.2 = letter) then fail s!"Illegal option -{letter}"
  modifyOwn fun p =>
    let others := p.settings.filter (· ≠ letter)
    let chosen := if isOn then letter :: others else others
    { p with settings := (settings.map (·.2)).filter chosen.contains }

def changeNamed (name : String) (isOn : Bool) : Act Unit := do
  match settings.lookup name with
  | some letter => change letter isOn
  | none => if !idleSettings.contains name then fail s!"Illegal option -o {name}"

def showSettings (isTable : Bool) : Act Unit := do
  let chosen := (← own).settings
  if isTable then writeLine "Current option settings"
  let all := settings.map (fun (name, letter) => (name, chosen.contains letter)) ++
    idleSettings.map fun name => (name, false)
  all.forM fun (name, isOn) =>
    if isTable then
      writeLine (name.pushn ' ' (16 - name.length) ++ (if isOn then "on" else "off"))
    else writeLine ((if isOn then "set -o " else "set +o ") ++ name)

/-- Changes settings as arguments say, and gives the other arguments, if they are to be set. -/
def takeSettings : List String → Nat → Act (Option (List String))
  | [], _ | _, 0 => return none
  | arg :: args, fuel + 1 => do
    match arg.toList with
    | ['-'] => do
      change 'x' false
      change 'v' false
      return if args.isEmpty then none else some args
    | ['-', '-'] => return some args
    | sign :: s =>
      if sign ≠ '-' && sign ≠ '+' then return some (arg :: args)
      let isOn := sign = '-'
      let args ← letters isOn s args
      takeSettings args fuel
    | [] => return some (arg :: args)
where
  letters (isOn : Bool) : List Char → List String → Act (List String)
    | [], args => return args
    | 'o' :: s, args => do
      match args with
      | [] => do
        showSettings isOn
        letters isOn s []
      | name :: args => do
        changeNamed name isOn
        letters isOn s args
    | c :: s, args => do
      change c isOn
      letters isOn s args

def setArguments (args : List String) : Act Unit :=
  modifyOwn fun p => { p with arguments := args, optionIndex := 1, optionOffset := 0 }

def set (args : List String) : Act Nat := do
  if args.isEmpty then
    showVariables "" fun v => v.value.isSome
    return 0
  if let some rest ← takeSettings args (args.length + 1) then setArguments rest
  return 0

def shift (args : List String) : Act Nat := do
  let n ← match args with
    | [] => pure 1
    | arg :: _ => number arg
  let all := (← own).arguments
  if all.length < n then fail "can't shift that many"
  setArguments (all.drop n)
  return 0

/-! Options of scripts. -/

/-- The argument with a place counted from one, and the characters of it from an offset on. -/
def optionText (args : List String) (index offset : Nat) : List Char :=
  ((args[index - 1]?).getD "").toList.drop offset

def optionKind? (known : List Char) (letter : Char) : Option Bool :=
  match known with
  | [] => none
  | c :: s => if c = letter then some (s.head? = some ':') else optionKind? s letter

def getOption (args : List String) : Act Nat := do
  let known :: name :: given := args | fail "Usage: getopts optstring var [arg]"
  let own ← own
  let all := if given.isEmpty then own.arguments else given
  let index := if all.length + 1 < own.optionIndex then 1 else own.optionIndex
  let inWord := if own.optionOffset = 0 then [] else optionText all (index - 1) own.optionOffset
  let finish (code : Nat) (letter : Char) (index offset : Nat) : Act Nat := do
    putVariable optionName
      { (← binding? optionName).getD .unset with value := some (toString index) }
    modifyOwn fun p => { p with optionIndex := index, optionOffset := offset }
    setVariable name (some letter.toString)
    return code
  -- The letters that are left with their offset, and the place of the next argument.
  let found : Option (List Char × Nat) × Nat :=
    if !inWord.isEmpty then (some (inWord, own.optionOffset), index)
    else
      match optionText all index 0 with
      | ['-', '-'] => (none, index + 1)
      | '-' :: c :: s => (some (c :: s, 1), index + 1)
      | _ => (none, index)
  match found with
  | (none, index) => finish 1 '?' index 0
  | (some (letters, offset), index) =>
    let letter := letters.headD '?'
    let rest := letters.drop 1
    let offsetAfter := if rest.isEmpty then 0 else offset + 1
    let isQuiet := known.startsWith ":"
    let letterText := some letter.toString
    match optionKind? known.toList letter with
    | none => do
      if isQuiet then setVariable "OPTARG" letterText
      else
        complain s!"Illegal option -{letter}"
        unsetVariable "OPTARG"
      finish 0 '?' index offsetAfter
    | some false => do
      setVariable "OPTARG" (some "")
      finish 0 letter index offsetAfter
    | some true => do
      if !rest.isEmpty then
        setVariable "OPTARG" (some (String.ofList rest))
        finish 0 letter index 0
      else
        match all[index - 1]? with
        | some value => do
          setVariable "OPTARG" (some value)
          finish 0 letter (index + 1) 0
        | none => do
          if isQuiet then
            setVariable "OPTARG" letterText
            finish 0 ':' index 0
          else
            complain s!"No arg for -{letter} option"
            unsetVariable "OPTARG"
            finish 0 '?' index 0

/-! Reading lines. -/

/-- A line on the way: its stretches and the pieces of the last of them, both in reverse. -/
structure Line where
  done : List Stretch
  current : List Piece

def Line.close (l : Line) : Line :=
  if l.current.isEmpty then l else ⟨⟨l.current.reverse, .atSeparators⟩ :: l.done, []⟩

def Line.plain (c : Char) (l : Line) : Line := { l with current := .mark ⟨c, false⟩ :: l.current }

def Line.quoted (c : Char) (l : Line) : Line :=
  ⟨⟨[.mark ⟨c, true⟩], .never⟩ :: l.close.done, []⟩

/-- Reads a line, with those that continue it unless backslashes are plain characters; and whether a
line break has ended it. -/
def readLine (isRaw isEscaped : Bool) (l : Line) : Nat → Act (List Stretch × Bool)
  | 0 => return (l.close.done.reverse, false)
  | fuel + 1 => do
    match ← readByte? with
    | none => return (l.close.done.reverse, false)
    | some 0 => readLine isRaw isEscaped l fuel
    | some b =>
      let c := Char.ofNat b.toNat
      if isEscaped then readLine isRaw false (if c = '\n' then l else l.quoted c) fuel
      else if c = '\\' && !isRaw then readLine isRaw true l fuel
      else if c = '\n' then return (l.close.done.reverse, true)
      else readLine isRaw false (l.plain c) fuel

/-- Gives the fields of a line to variables, and all that is left to the last of them. -/
def read (args : List String) : Act Nat := do
  let (os, names) ← options "p" "r" args
  let isRaw := os.any (·.1 = 'r')
  if names.isEmpty then fail "arg count"
  let bound ← match ← channel? 0 with
    | some channel => boundOf channel
    | none => pure 0
  let (line, isEnded) ← readLine isRaw false ⟨[], []⟩ bound
  let separators := ((← value? "IFS").getD Field.defaultSeparators).toList
  let fields := Field.split separators (some names.length) line
  names.zipIdx.forM fun (name, i) =>
    setVariable name (some (Glob.text (fields[i]?.getD [])))
  ofBool isEnded

/-! Aliases. -/

def showAlias (a : String × String) : Act Unit := writeLine s!"{a.1}={Act.quoted a.2}"

def aliasPlaces : Nat := 39

def aliasPlace (name : String) : Nat :=
  let s := name.toList
  s.foldl (fun n c => n + c.toNat) (16 * (s.headD 'a').toNat) % aliasPlaces

def aliases (args : List String) : Act Nat := do
  if args.isEmpty then
    let sorted := (← own).aliases.mergeSort fun a b => decide (aliasPlace a.1 ≤ aliasPlace b.1)
    sorted.forM showAlias
    return 0
  let codes ← args.mapM fun arg => do
    match splitSetting arg with
    | (name, some value) => do
      modifyOwn fun p =>
        let isOld := p.aliases.any (·.1 = name)
        let changed := p.aliases.map fun a => if a.1 = name then (name, value) else a
        { p with aliases := if isOld then changed else p.aliases ++ [(name, value)] }
      return 0
    | (name, none) =>
      match (← own).aliases.find? (·.1 = name) with
      | some a => do
        showAlias a
        return 0
      | none => do
        complain s!"alias: {name} not found"
        return 1
  return codes.foldl max 0

def removeAliases (args : List String) : Act Nat := do
  let (os, names) ← options "" "a" args
  if !os.isEmpty then
    modifyOwn fun p => { p with aliases := [] }
    return 0
  let codes ← names.mapM fun name => do
    let isThere := (← own).aliases.any (·.1 = name)
    modifyOwn fun p => { p with aliases := p.aliases.filter (·.1 ≠ name) }
    if !isThere then complain s!"unalias: {name} not found"
    return if isThere then 0 else 1
  return codes.foldl max 0

end Scaffold.Shell.Builtin
