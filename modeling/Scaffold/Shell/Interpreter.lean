import Scaffold.Shell.Evaluate

/-!
Running commands in a shell of their own.
-/
namespace Scaffold.Shell

def depthLimit : Nat := 20000

def beginning (inputIsFile : Bool) (environment : Std.ExtTreeMap String String) (i : Invocation)
    (s : Surroundings) : Machine :=
  let environment := environment.toList.map fun (name, value) =>
    (ByteText.ofText name, ByteText.ofText value)
  { commons :=
      { files := s.files, console := .start i.interactions s, inputIsFile := inputIsFile
        openFiles := ∅, pipes := ∅, lastNumber := processNumber, slept := 0
        raised := [] }
    own := Start.process processNumber (processNumber - 1) "/bin/sh" environment s.files i.directory
      [(0, .input), (1, .output), (2, .error)] }

/-- A shell for commands, with the variables of an environment; its input may be a file. -/
def interpreter (inputIsFile : Bool) (environment : Std.ExtTreeMap String String) : Shell :=
  fun i s =>
    let m := beginning inputIsFile environment i s
    let script (text : String) := Evaluate.source false text depthLimit
    let text := ByteText.ofText i.command
    let act := Evaluate.asProcess m.own <|
      Evaluate.toEnd script (Evaluate.source false text depthLimit)
    let (ending, m) := act.run m
    let code := match ending with
      | .ok (.status n) => some n
      | _ => none
    m.commons.console.finish m.commons.files code

end Scaffold.Shell
