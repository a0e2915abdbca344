import Scaffold.Document.Yaml.Node

/-!
YAML texts as document trees: the directives before a document, its root, and what may follow it.
-/
namespace Scaffold.Document.Yaml

def commonHandles : List (List Char × List UInt8) :=
  [("!".toList, "!".toUTF8.toList), ("!!".toList, "tag:yaml.org,2002:".toUTF8.toList)]

def directives (hasVersion : Bool) (handles : List (List Char × List UInt8)) :
    List Token → Option (List (List Char × List UInt8) × List Token)
  | .version major minor :: ts =>
    if hasVersion || major ≠ 1 || (minor ≠ 1 && minor ≠ 2) then none
    else directives true handles ts
  | .handle name meaning :: ts =>
    if (handles.lookup name).isSome then none
    else directives hasVersion (handles ++ [(name, meaning)]) ts
  | ts => some (handles ++ commonHandles, ts)

def root (isStarted : Bool) (handles : List (List Char × List UInt8)) (ts : List Token) : Source :=
  let isAbsent :=
    match ts with
    | .version .. :: _ | .handle .. :: _ | .documentStart :: _ | .documentEnd :: _
    | .streamEnd :: _ => isStarted
    | _ => false
  let rest : Rest := ⟨ts, handles, [], #[]⟩
  let (root, rest) :=
    if isAbsent then (Node.empty, rest) else Node.read .block rest (8 * ts.length + 16)
  let ends := (rest.tokens.dropWhile (· = .documentEnd)).head? = some .streamEnd
  ⟨root, rest.table, ends⟩

def document (ts : List Token) : Source :=
  match ts with
  | .streamEnd :: _ => ⟨Node.empty, #[], true⟩
  | .version .. :: _ | .handle .. :: _ | .documentStart :: _ =>
    match directives false [] ts with
    | some (handles, .documentStart :: ts) => root true handles ts
    | _ => ⟨.broken, #[], false⟩
  | [] => ⟨.broken, #[], false⟩
  | _ => root false commonHandles ts

/-- Reads the first document of a text, which need not be the only one. -/
def read (s : String) : Source :=
  let text := match s.toList with | '\uFEFF' :: text => text | text => text
  if text.all isAllowed then document (Token.ofText text) else ⟨.broken, #[], false⟩

end Scaffold.Document.Yaml
