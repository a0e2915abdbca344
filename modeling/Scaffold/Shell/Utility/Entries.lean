import Scaffold.Shell.Utility.Basic

/-!
Programs on files, directories and links: they make, remove, copy, move and list them.
-/
namespace Scaffold.Shell.Utility

open Act

/-! Looking. -/

def files : Act FileTree := return (← commons).files
def here : Act Location := return (← own).directory

/-- The place of an entry, where a link at the end of a path is not followed. -/
def entryPlace (path : String) : Act (Except SystemFault Location) := do
  return Files.locateEntry (← files) (← here) (systemPath path)

def goal? (path : String) : Act (Option Entry) := do
  return Files.lookup? (← files) (← here) (systemPath path)

def isDirectory (path : String) : Act Bool := return (← goal? path) = some .directory

def setFiles (t : FileTree) : Act Unit := modifyCommons fun c => { c with files := t }

def missingOperand (program what : String) : Act Nat := misuse program s!"missing {what}" 1

/-! Making. -/

def touch (args : List String) : Act Nat :=
  withOptions "touch" (letters "acmd:t:r:h") 1 args fun r => do
    if r.operands.isEmpty then return ← missingOperand "touch" "file operand"
    eachPath r.operands fun path => do
      if (← goal? path).isSome || r.has 'c' then return none
      return faultComplaint s!"touch: cannot touch {quoted path}" <|
        ← onFiles fun here => Files.write here (systemPath path) .empty

/-- The directories on the way of a path, outermost first, and the path itself. -/
def ancestors (path : String) : List String :=
  let names := (Path.parts path)
  let front := if path.startsWith "/" then "/" else ""
  (List.range names.length).map fun n => front ++ String.intercalate "/" (names.take (n + 1))

def makeDirectories (args : List String) : Act Nat :=
  withOptions "mkdir" [⟨'p', "parents", false⟩, ⟨'m', "mode", true⟩, ⟨'v', "verbose", false⟩] 1 args
    fun r => do
      if r.operands.isEmpty then return ← missingOperand "mkdir" "operand"
      eachPath r.operands fun path => do
        let make (path : String) : Act (Except SystemFault Unit) := do
          let result ← onFiles fun here => Files.makeDirectory here (systemPath path)
          if r.has 'v' && result.isOk then writeLine s!"mkdir: created directory {quoted path}"
          return result
        if !r.has 'p' then
          return faultComplaint s!"mkdir: cannot create directory {quoted path}" (← make path)
        for step in ancestors path do
          if !(← isDirectory step) then
            if let some c := faultComplaint s!"mkdir: cannot create directory {quoted step}"
              (← make step) then return some c
        return none

/-- Makes links to files, symbolic ones or such that are copies. -/
def link (args : List String) : Act Nat :=
  let known := [⟨'s', "symbolic", false⟩, ⟨'f', "force", false⟩, ⟨'n', "no-dereference", false⟩,
    ⟨'v', "verbose", false⟩, ⟨'T', "no-target-directory", false⟩, ⟨'r', "relative", false⟩]
  withOptions "ln" known 1 args fun r => do
    let linkTo (source path : String) : Act (Option String) := do
      if r.has 'f' then
        if let .ok place ← entryPlace path then
          let t ← files
          if !t.isDirectory place then setFiles (t.erase place)
      if r.has 's' then
        return faultComplaint s!"ln: failed to create symbolic link {quoted path}" <|
          ← onFiles fun here => Files.makeLink here (systemPath source) (systemPath path)
      match ← entryPlace source with
      | .error f => return some s!"ln: failed to access {quoted source}: {f.text}"
      | .ok place =>
        let t ← files
        if t.isDirectory place then
          return some s!"ln: {shown source}: hard link not allowed for directory"
        match Files.vacant t (← here) (systemPath path), t.find? place with
        | .ok free, some e => do
          setFiles (t.put free e)
          return none
        | .error f, _ => return some s!"ln: failed to create hard link {quoted path}: {f.text}"
        | _, none => return none
    let into (directory source : String) : Act (Option String) :=
      linkTo source (directory ++ "/" ++ ((Path.parts source).getLast?).getD "")
    match r.operands with
    | [] => missingOperand "ln" "file operand"
    | [source] => eachPath [source] (into ".")
    | [source, target] => do
      let isLink := ((← entryPlace target).toOption.bind (← files).find?).any (· matches .link _)
      let isInto := (← isDirectory target) && !r.has 'T' && !(r.has 'n' && isLink)
      eachPath [source] fun source => if isInto then into target source else linkTo source target
    | operands =>
      let target := operands.getLast?.getD ""
      if ← isDirectory target then eachPath operands.dropLast (into target)
      else do
        complain s!"ln: target {quoted target}: Not a directory"
        return 1

/-! Removing. -/

def removeDirectories (args : List String) : Act Nat :=
  withOptions "rmdir" [⟨'p', "parents", false⟩, ⟨'v', "", false⟩] 1 args fun r => do
    if r.operands.isEmpty then return ← missingOperand "rmdir" "operand"
    let paths := r.operands.flatMap fun path =>
      if r.has 'p' then (ancestors path).reverse else [path]
    eachPath paths fun path => do
      let front := s!"rmdir: failed to remove {quoted path}"
      match ← entryPlace path with
      | .error f => return faultComplaint front (.error f : Except SystemFault Unit)
      | .ok place =>
        let t ← files
        if !t.isDirectory place then return some (front ++ ": Not a directory")
        if !t.isEmptyAt place then return some (front ++ ": Directory not empty")
        setFiles (t.erase place)
        return none

def remove (args : List String) : Act Nat :=
  let known := [⟨'r', "recursive", false⟩, ⟨'R', "", false⟩, ⟨'f', "force", false⟩,
    ⟨'d', "dir", false⟩, ⟨'i', "", false⟩, ⟨'v', "verbose", false⟩]
  withOptions "rm" known 1 args fun r => do
    if r.operands.isEmpty && !r.has 'f' then return ← missingOperand "rm" "operand"
    let isDeep := r.has 'r' || r.has 'R'
    eachPath r.operands fun path => do
      let front := s!"rm: cannot remove {quoted path}"
      let name := ((Path.parts path).getLast?).getD ""
      match ← entryPlace path with
      | .error f =>
        if r.has 'f' && (f = .notFound || f = .notADirectory) then return none
        return faultComplaint front (.error f : Except SystemFault Unit)
      | .ok place =>
        let t ← files
        if t.isDirectory place && !isDeep && !r.has 'd' then return some (front ++ ": Is a directory")
        if isDeep && (name = "." || name = "..") then
          return some s!"rm: refusing to remove '.' or '..' directory: skipping {quoted path}"
        if !isDeep && !t.isEmptyAt place then return some (front ++ ": Directory not empty")
        setFiles (t.eraseAll place)
        if r.has 'v' then
          writeLine (if t.isDirectory place then s!"removed directory {quoted path}"
            else s!"removed {quoted path}")
        return none

/-! Copying and moving. -/

def destination (source target : String) (isInto : Bool) : String :=
  if isInto then
    (if target.endsWith "/" then target else target ++ "/") ++ ((Path.parts source).getLast?).getD ""
  else target

def eachPair (program : String) (isIntoAllowed : Bool) (paths : List String)
    (act : String → String → Act (Option String)) : Act Nat := do
  match paths with
  | [] => missingOperand program "file operand"
  | [path] => missingOperand program s!"destination file operand after {quoted path}"
  | paths => do
    let target := paths.getLast?.getD ""
    let isInto := isIntoAllowed && (← isDirectory target)
    if 2 < paths.length && !isInto then
      let reason := if (← goal? target).isSome then "Not a directory" else "No such file or directory"
      complain s!"{program}: target {quoted target}: {reason}"
      return 1
    eachPath paths.dropLast fun source => act source (destination source target isInto)

def copyTree (t : FileTree) (place goal : Location) (e : Entry) : FileTree :=
  ((t.below place).map fun (p, e) => (goal ++ p.drop place.length, e)).foldl
    (fun t (p, e) => t.put p e) (t.put goal e)

def copy (args : List String) : Act Nat :=
  let known := [⟨'r', "recursive", false⟩, ⟨'R', "", false⟩, ⟨'a', "archive", false⟩,
    ⟨'p', "", false⟩, ⟨'f', "force", false⟩, ⟨'n', "no-clobber", false⟩, ⟨'T', "", false⟩,
    ⟨'v', "verbose", false⟩, ⟨'P', "no-dereference", false⟩, ⟨'L', "dereference", false⟩,
    ⟨'d', "", false⟩, ⟨'u', "update", false⟩, ⟨'i', "", false⟩, ⟨'t', "target-directory", true⟩]
  withOptions "cp" known 1 args fun r => do
    let isDeep := r.has 'r' || r.has 'R' || r.has 'a'
    let keepsLinks := r.has 'P' || r.has 'a' || r.has 'd' || (isDeep && !r.has 'L')
    let operands := r.operands ++ (r.value? 't').toList
    eachPair "cp" (!r.has 'T') operands fun source target => do
      let place ← if keepsLinks then entryPlace source
        else pure (Files.locate (← files) (← here) (systemPath source))
      match place with
      | .error f => return some s!"cp: cannot stat {quoted source}: {f.text}"
      | .ok place =>
        let t ← files
        let goal := Files.locateEntry t (← here) (systemPath target)
        if goal.toOption.isSome && r.has 'n' then return none
        if goal.toOption = some place then
          return some s!"cp: {quoted source} and {quoted target} are the same file"
        match t.find? place with
        | some .directory =>
          if !isDeep then return some s!"cp: -r not specified; omitting directory {quoted source}"
          let vacant := Files.vacant t (← here) (systemPath target)
          let made : Except SystemFault Location := match goal with
            | .ok goal => if t.isDirectory goal then .ok goal else .error .exists
            | .error _ => vacant
          match made with
          | .error .exists =>
            return some s!"cp: cannot overwrite non-directory {quoted target} with directory {quoted source}"
          | .error f => return some s!"cp: cannot create directory {quoted target}: {f.text}"
          | .ok goal =>
            if place.isPrefixOf goal then
              if place ≠ goal then setFiles (copyTree t place goal .directory)
              return some s!"cp: cannot copy a directory, {quoted source}, into itself, {quoted target}"
            setFiles (copyTree t place goal .directory)
            return none
        | some (.link path) =>
          return faultComplaint s!"cp: cannot create symbolic link {quoted target}" <|
            ← onFiles fun here => Files.makeLink here path (systemPath target)
        | some (.file bytes isProgram) =>
          match Files.writable t (← here) (systemPath target) with
          | .error f => return some s!"cp: cannot create regular file {quoted target}: {f.text}"
          | .ok goal => do
            let isNew := (t.find? goal).isNone
            setFiles (if isNew then t.put goal (.file bytes isProgram) else t.putBytes goal bytes)
            if r.has 'v' then writeLine s!"{quoted source} -> {quoted target}"
            return none
        | none => return none

def move (args : List String) : Act Nat :=
  let known := [⟨'f', "force", false⟩, ⟨'n', "no-clobber", false⟩, ⟨'v', "verbose", false⟩,
    ⟨'T', "", false⟩, ⟨'i', "", false⟩, ⟨'u', "", false⟩, ⟨'t', "target-directory", true⟩]
  withOptions "mv" known 1 args fun r => do
    let operands := r.operands ++ (r.value? 't').toList
    eachPair "mv" (!r.has 'T') operands fun source target => do
      match ← entryPlace source with
      | .error f => return some s!"mv: cannot stat {quoted source}: {f.text}"
      | .ok place =>
        let t ← files
        let goal := (Files.locateEntry t (← here) (systemPath target)).toOption
        if goal.isSome && r.has 'n' then return none
        if goal = some place then
          return some s!"mv: {quoted source} and {quoted target} are the same file"
        let isNonDirectory (e : Option Entry) : Bool := e.isSome && e ≠ some .directory
        if t.isDirectory place && isNonDirectory (goal.bind t.find?) then
          return some s!"mv: cannot overwrite non-directory {quoted target} with directory {quoted source}"
        match ← onFiles fun here => Files.rename here (systemPath source) (systemPath target) with
        | .ok () => do
          if r.has 'v' then writeLine s!"renamed {quoted source} -> {quoted target}"
          return none
        | .error .invalidArgument =>
          return some
            s!"mv: cannot move {quoted source} to a subdirectory of itself, {quoted target}"
        | .error .isADirectory =>
          return some s!"mv: cannot overwrite directory {quoted target} with non-directory"
        | .error f => return some s!"mv: cannot move {quoted source} to {quoted target}: {f.text}"

/-! Rights. -/

/-- Whether a mode lets somebody run a file, and whether the mode can be read. -/
def programMode? (mode : String) (isProgram : Bool) : Option Bool :=
  let s := mode.toList
  if s.all (fun c => '0' ≤ c && c ≤ '7') && !s.isEmpty then
    some (s.any fun c => (c.toNat - '0'.toNat) % 2 = 1)
  else
    (s.splitOn ',').foldlM (fun isProgram clause =>
      let rest := clause.dropWhile fun c => "ugoa".contains c
      match rest with
      | op :: rights =>
        let isWanted := rights.contains 'x' || (rights.contains 'X' && isProgram)
        if !"+-=".contains op || !rights.all fun c => "rwxXst".contains c then none
        else some (if op = '+' then isProgram || isWanted
          else if op = '-' then isProgram && !rights.contains 'x'
          else isWanted)
      | [] => none) isProgram

def changeMode (args : List String) : Act Nat := do
  let isOption (arg : String) : Bool := ["-R", "-v", "-f", "-c", "--"].contains arg
  let isDeep := args.contains "-R"
  match args.filter (!isOption ·) with
  | [] => missingOperand "chmod" "operand"
  | [mode] => missingOperand "chmod" s!"operand after {quoted mode}"
  | mode :: paths =>
    if (programMode? mode false).isNone then
      return ← misuse "chmod" s!"invalid mode: {quoted mode}" 1
    let changed (e : Entry) : Entry :=
      match e with
      | .file bytes isProgram => .file bytes ((programMode? mode isProgram).getD isProgram)
      | e => e
    eachPath paths fun path => do
      let t ← files
      match Files.locate t (← here) (systemPath path) with
      | .error f => return some s!"chmod: cannot access {quoted path}: {f.text}"
      | .ok place => do
        let inner := if isDeep then t.below place else []
        let all := (t.find? place).toList.map (fun e => (place, e)) ++ inner
        setFiles (all.foldl (fun t (p, e) => if p.isEmpty then t else t.put p (changed e)) t)
        return none

/-! Listing. -/

def kindSign (r : Request) (e : Option Entry) : String :=
  match e with
  | some .directory => if r.has 'F' || r.has 'p' then "/" else ""
  | some (.file _ true) => if r.has 'F' then "*" else ""
  | some (.link _) => if r.has 'F' then "@" else ""
  | _ => ""

def listedNames (r : Request) (t : FileTree) (place : Location) : List String :=
  let names := t.names place
  let chosen :=
    if r.has 'a' then "." :: ".." :: names
    else names.filter fun name => r.has 'A' || !name.startsWith "."
  if r.has 'r' then chosen.reverse else chosen

def showNames (r : Request) (t : FileTree) (place : Location) (names : List String) : Act Unit := do
  let texts := names.map fun name =>
    let e := if name = "." || name = ".." then some .directory else t.find? (place ++ [name])
    ByteText.ofText name ++ kindSign r e
  if r.has 'm' then (if texts.isEmpty then return else writeLine (String.intercalate ", " texts))
  else writeLines texts

def listDirectory (r : Request) (isNamed isFirst : Bool) (path : String) (place : Location) :
    Nat → Act Unit
  | 0 => return
  | fuel + 1 => do
    let t ← files
    if !isFirst then writeText "\n"
    if isNamed then writeLine (path ++ ":")
    let names := listedNames r t place
    showNames r t place names
    if r.has 'R' then
      let inner := names.filter fun name =>
        name ≠ "." && name ≠ ".." && t.isDirectory (place ++ [name])
      inner.forM fun name =>
        let front := if path.endsWith "/" then path else path ++ "/"
        listDirectory r true false (front ++ ByteText.ofText name) (place ++ [name]) fuel

def list (args : List String) : Act Nat :=
  withOptions "ls" (letters "1aAdRrFpmCUtSlhiGonsx") 2 args fun r => do
    let t ← files
    let paths := if r.operands.isEmpty then ["."] else r.operands
    let found ← paths.mapM fun path => do
      let followed := Files.locate t (← here) (systemPath path)
      let itself := Files.locateEntry t (← here) (systemPath path)
      let place := if !r.has 'd' && followed.toOption.isSome then followed else itself
      match place with
      | .ok place => return some (path, place)
      | .error f => do
        complain s!"ls: cannot access {quoted path}: {f.text}"
        return none
    let sorted := found.reduceOption.mergeSort fun a b => decide (a.1 ≤ b.1)
    let sorted := if r.has 'r' then sorted.reverse else sorted
    let isListed (x : String × Location) : Bool := t.isDirectory x.2 && !r.has 'd'
    let (directories, others) := sorted.partition isListed
    writeLines (others.map fun (path, place) => path ++ kindSign r (t.find? place))
    let isNamed := 1 < paths.length || r.has 'R'
    directories.zipIdx.forM fun ((path, place), i) =>
      listDirectory r isNamed (i = 0 && others.isEmpty) path place (t.entries.size + 1)
    return if found.all (·.isSome) then 0 else 2

/-! Links and paths. -/

/-- The path of a place after all links; the last name need not be there. -/
def truePath (path : String) : Act (Option String) := do
  let t ← files
  let written (place : Location) := some (ByteText.ofText (Path.ofNames place))
  match Files.locate t (← here) (systemPath path) with
  | .ok place => return written place
  | .error _ =>
    match Files.writable t (← here) (systemPath path) with
    | .ok place => return written place
    | .error _ => return none

def readLink (args : List String) : Act Nat :=
  withOptions "readlink" (letters "femnqsvz") 1 args fun r => do
    if r.operands.isEmpty then return ← missingOperand "readlink" "operand"
    let ending := if r.has 'n' then "" else "\n"
    let codes ← r.operands.mapM fun path => do
      if r.has 'f' || r.has 'e' || r.has 'm' then
        match ← truePath path with
        | some path => do
          writeText (path ++ ending)
          return 0
        | none => return 1
      else
        match (← entryPlace path).toOption.bind (← files).find? with
        | some (.link goal) => do
          writeText (ByteText.ofText goal ++ ending)
          return 0
        | _ => return 1
    return codes.foldl max 0

def showTruePath (args : List String) : Act Nat :=
  withOptions "realpath" (letters "emqszLP") 1 args fun r => do
    if r.operands.isEmpty then return ← missingOperand "realpath" "operand"
    eachPath r.operands fun path => do
      match ← truePath path with
      | some goal => do
        writeLine goal
        return none
      | none => return some s!"realpath: {shown path}: No such file or directory"

def statText (path : String) (e : Entry) (letter : Char) : String :=
  match letter, e with
  | 'n', _ => path
  | 's', .file bytes _ => toString bytes.size
  | 's', .link goal => toString goal.utf8ByteSize
  | 's', .directory => "4096"
  | 'F', .file bytes _ => if bytes.size = 0 then "regular empty file" else "regular file"
  | 'F', .directory => "directory"
  | 'F', .link _ => "symbolic link"
  | 'a', .file _ isProgram => if isProgram then "755" else "644"
  | 'a', .directory => "755"
  | 'a', .link _ => "777"
  | 'N', _ => quoted path
  | '%', _ => "%"
  | c, _ => "%" ++ c.toString

def status (args : List String) : Act Nat :=
  withOptions "stat" [⟨'c', "format", true⟩, ⟨'L', "dereference", false⟩] 1 args fun r => do
    if r.operands.isEmpty then return ← missingOperand "stat" "operand"
    let rec fill (path : String) (e : Entry) : List Char → List String
      | '%' :: c :: s => statText path e c :: fill path e s
      | c :: s => c.toString :: fill path e s
      | [] => []
    eachPath r.operands fun path => do
      let followed := Files.locate (← files) (← here) (systemPath path)
      let itself ← entryPlace path
      let place := if r.has 'L' then followed else itself
      match place with
      | .error f => return some s!"stat: cannot statx {quoted path}: {f.text}"
      | .ok place => do
        let e := ((← files).find? place).getD .directory
        writeLine (String.join (fill path e ((r.value? 'c').getD "%n").toList))
        return none

end Scaffold.Shell.Utility
