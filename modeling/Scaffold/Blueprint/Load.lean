import Scaffold.Blueprint.Decode
import Scaffold.Document.Json
import Scaffold.Document.Yaml
import Scaffold.Error
import Scaffold.Files.Operations
import Scaffold.Text.Blank

/-!
Loading blueprints from the texts of documents. The ending of a file's name tells JSON from YAML.
-/
namespace Scaffold.Blueprint

open Document

inductive Format where
  | json
  | yaml
  deriving DecidableEq, Repr

def Format.ofPath (path : String) : Format :=
  match Path.extension? path with
  | some ending => if String.ofList (ending.toList.map Char.toLower) = "json" then json else yaml
  | none => yaml

def Format.source (f : Format) (text : String) : Source :=
  match f with
  | json => Json.read text
  | yaml => Yaml.read text

def Format.room : Format → Nat
  | json => 127
  | yaml => 128

def Format.setting (f : Format) (d : Source) : Setting where
  anchors := d.anchors
  listsAreRecords := f = .json
  room := f.room
  aliasLimit := 100 * d.root.size

/-- Reads a whole document: nothing may follow it. -/
def ofSource (f : Format) (d : Source) : Except Fault Blueprint := do
  let b ← Reader.run read (f.setting d) d.root
  if d.ends then return b else throw .malformed

/-- A YAML text without anything on it is an empty blueprint. -/
def ofText (f : Format) (text : String) : Except Fault Blueprint :=
  if f = .yaml && (Text.trimmed text).isEmpty then return empty
  else ofSource f (f.source text)

def parse (f : Format) (path text : String) : Except Error Blueprint :=
  (ofText f text).mapError (.malformedDocument path)

def load (t : FileTree) (directory : Location) (path : String) : Except Error Blueprint :=
  match Files.readText t directory path with
  | .ok text => parse (.ofPath path) path text
  | .error .notFound => throw (.documentNotFound path)
  | .error f => throw (.system f)

end Scaffold.Blueprint
