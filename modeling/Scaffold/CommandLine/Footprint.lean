import Scaffold.CommandLine.Program

/-!
The places that a run is about, as far as its blueprint tells: what its steps and their checks name.
Files that only a command knows of are not among them.
-/
namespace Scaffold

def FileAction.paths : FileAction → List String
  | create path _ => [path]
  | edit path _ _ => [path]
  | delete path => [path]
  | move source destination => [source, destination]

def StepAction.paths : StepAction → List String
  | command _ directory _ _ => [directory]
  | directories paths => paths
  | file action => action.paths

def StepCheck.paths : StepCheck → List String
  | .exists path => [path]
  | .contains path _ => [path]
  | .unknown _ => []

def ResolvedStep.paths (s : ResolvedStep) : List String :=
  s.action.paths ++ s.check.elim [] StepCheck.paths

/-- The place that a path means when all directories on the way to it are there. -/
def Path.place (directory : Location) (path : String) : Location :=
  (Path.parts (Path.join (Path.ofNames directory) path)).foldl (fun place name =>
    if name = ".." then place.dropLast else if name = "." then place else place ++ [name]) []

namespace CommandLine

def stepPaths (root config : String) : Run (List String) := do
  let b ← liftM (Blueprint.load (← Run.files) (← Run.directory) config)
  let vars ← Run.collect b
  return (b.phases.flatMap (·.steps)).flatMap fun s =>
    match (ResolvedStep.ofStep vars root s).run.value with
    | .ok s => s.paths
    | .error _ => []

namespace Situation

def documentPlace? (s : Situation) : Option Location :=
  match Arguments.ofTexts s.environment[directorySetting]? s.arguments with
  | .ok a => some (Path.place s.directory a.config)
  | .error _ => none

/-- The places of a run whose document is among the files. -/
def footprint (s : Situation) : List Location :=
  match Arguments.ofTexts s.environment[directorySetting]? s.arguments with
  | .error _ => []
  | .ok a =>
    match ((stepPaths (s.root a) a.config).run (s.world a)).1 with
    | .ok paths => (s.root a :: paths).map (Path.place s.directory)
    | .error _ => []

end Situation

end CommandLine

end Scaffold
