import Scaffold.Display.Event

/-!
Styles for a terminal, and the lines that are built with them. A style is a list of numbers for the
terminal, its colour before its attributes; a plain theme has none.
-/
namespace Scaffold

structure Style where
  codes : List String
  deriving DecidableEq, Repr

namespace Style

def escape : String := "\x1b["

def plain : Style := ⟨[]⟩
def bold : Style := ⟨["1"]⟩
def dim : Style := ⟨["2"]⟩

def apply (s : Style) (text : String) : String :=
  if s.codes.isEmpty then text
  else String.join (s.codes.map fun code => escape ++ code ++ "m") ++ text ++ escape ++ "0m"

end Style

structure Theme where
  success : Style
  warning : Style
  error : Style
  dim : Style
  highlight : Style
  phase : Style
  step : Style
  header : Style
  deriving DecidableEq, Repr

namespace Theme

def coloured : Theme where
  success := ⟨["32"]⟩
  warning := ⟨["38;5;208"]⟩
  error := ⟨["31", "1"]⟩
  dim := .dim
  highlight := .bold
  phase := ⟨["36", "1"]⟩
  step := .bold
  header := ⟨["35", "1"]⟩

def plain : Theme :=
  ⟨.plain, .plain, .plain, .plain, .plain, .plain, .plain, .plain⟩

def said (t : Theme) (severity : Severity) (text : String) : String :=
  match severity with
  | .message => text
  | .note => t.dim.apply s!"ℹ {text}"
  | .success => t.success.apply s!"✓ {text}"
  | .skipped => t.dim.apply s!"○ {text}"
  | .warning => t.warning.apply s!"⚠ {text}"
  | .error => t.error.apply s!"✗ {text}"

def phaseLine (t : Theme) (title : String) (description : Option String) : String :=
  t.phase.apply s!"▶ {title}" ++
    (description.map fun d => "\n  " ++ t.dim.apply d).getD ""

def stepLine (t : Theme) (title : String) (description : Option String) : String :=
  t.step.apply s!"◆ {title}" ++ (description.map fun d => " " ++ t.dim.apply d).getD ""

def headerLine (t : Theme) (title : String) : String :=
  t.header.apply "🔥" ++ " " ++ t.highlight.apply title

end Theme

end Scaffold
