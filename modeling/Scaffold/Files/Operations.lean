import Scaffold.Files.Fault
import Scaffold.Files.Path
import Scaffold.Files.Tree

/-!
Operations on files by their paths, relative to a directory. Symbolic links on the way of a path are
followed; whether one at its end is followed depends on the operation. An operation has its full
effect or none, except that making a directory with its ancestors may stop after some of them.
-/
namespace Scaffold.Files

/-- A computation on the tree of files, which stays as it is at a failure. -/
abbrev Action (α : Type) := ExceptT SystemFault (StateM FileTree) α

/-! Computations that may fail. -/

section Failing

variable {α β : Type}

theorem throw_bind (f : SystemFault) (next : α → Except SystemFault β) :
    (throw f >>= next) = .error f := rfl

theorem ok_bind (a : α) (next : α → Except SystemFault β) : (Except.ok a >>= next) = next a := rfl

theorem bind_eq_ok {x : Except SystemFault α} {next : α → Except SystemFault β} {b : β} :
    (x >>= next) = .ok b ↔ ∃ a, x = .ok a ∧ next a = .ok b := by
  cases x with
  | error f => exact ⟨nofun, fun ⟨_, failed, _⟩ => nomatch failed⟩
  | ok a => exact ⟨fun done => ⟨a, rfl, done⟩, fun ⟨_, same, done⟩ => Except.ok.inj same ▸ done⟩

end Failing

/-! Finding places. -/

def nameLimit : Nat := 255
def pathLimit : Nat := 4096

def linkLimit : Nat := 40

def checkPath (path : String) : Except SystemFault Unit := do
  if path.toList.contains '\x00' then throw .nulInPath
  if path.isEmpty then throw .notFound
  if pathLimit ≤ path.utf8ByteSize then throw .nameTooLong

def child (t : FileTree) (place : Location) (name : String) : Except SystemFault Location := do
  if !t.isDirectory place then throw .notADirectory
  if name = "." then return place
  if name = ".." then return place.dropLast
  if nameLimit < name.utf8ByteSize then throw .nameTooLong
  if (t.find? (place ++ [name])).isNone then throw .notFound
  return place ++ [name]

def origin (directory : Location) (path : String) : Location :=
  if Path.isAbsolute path then [] else directory

/-- The names that a path goes through; a slash at its end asks for a directory. -/
def steps (path : String) : List String :=
  Path.parts path ++ (if Path.endsInSlash path then ["."] else [])

structure Reached where
  place : Location
  links : Nat

/-- Goes through names up to a symbolic link, from which another search goes on. -/
def walkUpTo (t : FileTree) (links : Nat) (follow : Location → List String → Except SystemFault Reached)
    (place : Location) : List String → Except SystemFault Reached
  | [] => return ⟨place, links⟩
  | name :: names => do
    let next ← child t place name
    match t.find? next with
    | some (.link path) => follow (origin place path) (steps path ++ names)
    | _ => walkUpTo t links follow next names

def walk (t : FileTree) : Nat → Location → List String → Except SystemFault Reached
  | 0 => walkUpTo t 0 fun _ _ => throw .tooManyLinks
  | links + 1 => walkUpTo t (links + 1) (walk t links)

def locate (t : FileTree) (directory : Location) (path : String) :
    Except SystemFault Location := do
  checkPath path
  let reached ← walk t linkLimit (origin directory path) (steps path)
  return reached.place

/-- The directory that a path ends in, and the last name, if there is one: the root has none. -/
structure Target where
  parent : Location
  name? : Option String
  endsInSlash : Bool

def Target.place? (x : Target) : Option Location :=
  match x.name? with
  | some name => if name = "." || name = ".." then none else some (x.parent ++ [name])
  | none => none

def Target.check (t : FileTree) (x : Target) : Except SystemFault Unit := do
  if !t.isDirectory x.parent then throw .notADirectory
  match x.name? with
  | some name => if nameLimit < name.utf8ByteSize then throw .nameTooLong
  | none => return

/-- Where a path ends that may go through so many symbolic links, and how many more of them may be followed. -/
def targetWithin (t : FileTree) (links : Nat) (directory : Location) (path : String) :
    Except SystemFault (Target × Nat) := do
  checkPath path
  let parts := Path.parts path
  let reached ← walk t links (origin directory path) parts.dropLast
  let x : Target := ⟨reached.place, parts.getLast?, Path.endsInSlash path⟩
  x.check t
  return (x, reached.links)

def target (t : FileTree) (directory : Location) (path : String) : Except SystemFault Target := do
  let (x, _) ← targetWithin t linkLimit directory path
  return x

/-- The place of an existing entry; a symbolic link at the end of the path is not followed. -/
def locateEntry (t : FileTree) (directory : Location) (path : String) :
    Except SystemFault Location := do
  let x ← target t directory path
  if x.endsInSlash then locate t directory path
  else
    match x.place? with
    | none => locate t directory path
    | some place => if (t.find? place).isSome then return place else throw .notFound

/-! Looking. -/

def lookup? (t : FileTree) (directory : Location) (path : String) : Option Entry :=
  match locate t directory path with
  | .ok place => t.find? place
  | .error _ => none

def has (t : FileTree) (directory : Location) (path : String) : Bool :=
  (lookup? t directory path).isSome

def isDirectory (t : FileTree) (directory : Location) (path : String) : Bool :=
  lookup? t directory path = some .directory

def read (t : FileTree) (directory : Location) (path : String) :
    Except SystemFault ByteArray := do
  match t.find? (← locate t directory path) with
  | some (.file bytes _) => return bytes
  | some .directory => throw .isADirectory
  | _ => throw .notFound

def readText (t : FileTree) (directory : Location) (path : String) :
    Except SystemFault String := do
  match String.fromUTF8? (← read t directory path) with
  | some text => return text
  | none => throw .notText

/-! Changing. -/

theorem walkUpTo_links_le {t : FileTree} {links : Nat}
    {follow : Location → List String → Except SystemFault Reached} {reached : Reached}
    (fewer : ∀ place names, follow place names = .ok reached → reached.links ≤ links) {place : Location}
    {names : List String} (walked : walkUpTo t links follow place names = .ok reached) : reached.links ≤ links := by
  induction names generalizing place with
  | nil =>
    cases walked
    exact Nat.le_refl links
  | cons name names ih =>
    obtain ⟨next, -, walked⟩ := bind_eq_ok.mp walked
    split at walked
    · exact fewer _ _ walked
    · exact ih walked

theorem walk_links_le {t : FileTree} {links : Nat} {place : Location} {names : List String} {reached : Reached}
    (walked : walk t links place names = .ok reached) : reached.links ≤ links := by
  induction links generalizing place names with
  | zero =>
    rw [walk] at walked
    refine walkUpTo_links_le ?_ walked
    intro _ _ failed
    cases failed
  | succ links ih => exact walkUpTo_links_le (fun _ _ walked => Nat.le_succ_of_le (ih walked)) walked

theorem targetWithin_links_le {t : FileTree} {links left : Nat} {directory : Location} {path : String} {x : Target}
    (found : targetWithin t links directory path = .ok (x, left)) : left ≤ links := by
  obtain ⟨_, -, found⟩ := bind_eq_ok.mp found
  obtain ⟨reached, walked, found⟩ := bind_eq_ok.mp found
  obtain ⟨_, -, found⟩ := bind_eq_ok.mp found
  cases found
  exact walk_links_le walked

/-- Where a file may be written; what is written to a symbolic link goes to where it leads. The links on the whole
way count together. -/
def writableWithin (t : FileTree) (links : Nat) (directory : Location) (path : String) :
    Except SystemFault Location :=
  match _ : targetWithin t links directory path with
  | .error f => throw f
  | .ok (x, left) =>
    match x.place? with
    | none => throw .isADirectory
    | some place =>
      if x.endsInSlash then throw .isADirectory
      else
        match t.find? place with
        | some .directory => throw .isADirectory
        | some (.link path) =>
          if 0 < left then writableWithin t (left - 1) x.parent path else throw .tooManyLinks
        | _ => return place
termination_by links
decreasing_by
  have := targetWithin_links_le ‹_›
  omega

def writable (t : FileTree) (directory : Location) (path : String) :
    Except SystemFault Location :=
  writableWithin t linkLimit directory path

def write (directory : Location) (path : String) (bytes : ByteArray) : Action Unit := do
  let place ← liftM (writable (← get) directory path)
  modify (·.putBytes place bytes)

def vacant (t : FileTree) (directory : Location) (path : String) :
    Except SystemFault Location := do
  match (← target t directory path).place? with
  | none => throw .exists
  | some place => if (t.find? place).isSome then throw .exists else return place

def makeDirectory (directory : Location) (path : String) : Action Unit := do
  let place ← liftM (vacant (← get) directory path)
  modify (·.put place .directory)

def makeLink (directory : Location) (destination path : String) : Action Unit := do
  if destination.isEmpty then throw .notFound
  let place ← liftM (vacant (← get) directory path)
  modify (·.put place (.link destination))

def ensureDirectory (directory : Location) (path : String) : Action Unit := do
  try makeDirectory directory path
  catch f => if !isDirectory (← get) directory path then throw f

/-- Makes a directory with its ancestors; a path has no more of them than characters. -/
def makeAncestors (directory : Location) (path : String) : Nat → Action Unit
  | 0 => return
  | fuel + 1 => do
    if path.isEmpty then return
    try ensureDirectory directory path
    catch
      | .notFound => do
        match Path.parent? path with
        | some parent => makeAncestors directory parent fuel
        | none => throw .notFound
        ensureDirectory directory path
      | f => throw f

def makeDirectories (directory : Location) (path : String) : Action Unit :=
  makeAncestors directory path (path.length + 1)

/-- Removes a file, or a symbolic link and not what it leads to. -/
def removeFile (directory : Location) (path : String) : Action Unit := do
  let t ← get
  let x ← liftM (target t directory path)
  match x.place? with
  | none => throw .isADirectory
  | some place =>
    match t.find? place with
    | none => throw .notFound
    | some .directory => throw .isADirectory
    | some _ =>
      if x.endsInSlash then throw .notADirectory
      set (t.erase place)

def checkReplaced (t : FileTree) (isDirectory : Bool) (place : Location) :
    Except SystemFault Unit :=
  match t.find? place with
  | none => return
  | some .directory =>
    if !isDirectory then throw .isADirectory
    else if !t.isEmptyAt place then throw .notEmpty
    else return
  | some _ => if isDirectory then throw .notADirectory else return

def rename (directory : Location) (source destination : String) : Action Unit := do
  let t ← get
  let x ← liftM (target t directory source)
  let y ← liftM (target t directory destination)
  match x.place?, y.place? with
  | some a, some b =>
    match t.find? a with
    | none => throw .notFound
    | some e =>
      let isDirectory := e = .directory
      if !isDirectory && (x.endsInSlash || y.endsInSlash) then throw .notADirectory
      if a = b then return
      if a.isPrefixOf b then throw .invalidArgument
      if b.isPrefixOf a then throw .notEmpty
      liftM (checkReplaced t isDirectory b)
      set (t.moveAll a b)
  | _, _ => throw .busy

def copy (directory : Location) (source destination : String) : Action Unit := do
  let t ← get
  match t.find? (← liftM (locate t directory source)) with
  | some (.file bytes isProgram) =>
    let place ← liftM (writable t directory destination)
    set (t.put place (.file bytes isProgram))
  | some .directory => throw .notAFile
  | _ => throw .notFound

end Scaffold.Files
