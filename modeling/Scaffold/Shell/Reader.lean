import Scaffold.Shell.Token

/-!
Scripts from their texts. A text is read one complete command at a time, so that what follows is only
read when the commands before it have been run.
-/
namespace Scaffold.Shell

namespace Reading

def tokenText : Token → String
  | .word _ => "word"
  | .keyword name | .operator name => "\"" ++ name ++ "\""
  | .redirection .. => "redirection"
  | .newline => "newline"
  | .finish => "end of file"

def messageLimit : Nat := 63

def unexpected (t : Token) (wanted : Option Token) : Reading α := do
  let wish := wanted.elim "" fun w => s!" (expecting {tokenText w})"
  fail (String.ofList ((tokenText t ++ " unexpected" ++ wish).toList.take messageLimit))

/-- Where a list of commands stands: it may have to hold a command, or it may be empty. -/
inductive ListPlace where
  | outermost
  | needed
  | optional
  deriving DecidableEq

def endsList : Token → Bool
  | .finish | .operator ")" | .operator ";;" => true
  | .keyword name => ["do", "done", "elif", "else", "esac", "fi", "then", "\x7d"].contains name
  | _ => false

def specialNames : List String :=
  [".", ":", "break", "continue", "eval", "exec", "exit", "export", "local", "readonly", "return",
    "set", "shift", "times", "trap", "unset"]

def assignment? : Word → Option (String × Word)
  | .literal text false :: rest =>
    let name := text.takeWhile Token.isNameChar
    if Token.isName name && (text.drop name.length).head? = some '=' then
      let value := text.drop (name.length + 1)
      some (String.ofList name, if value.isEmpty then rest else .literal value false :: rest)
    else none
  | _ => none

def literalText (w : Word) : List Char :=
  w.flatMap fun
    | .literal text _ => text
    | _ => []

def hasQuotes (w : Word) : Bool :=
  w.any fun
    | .literal _ isQuoted => isQuoted
    | _ => false

def target (inner : Inner) (stream : Nat) (kind : RedirectionKind) : Reading Redirection := do
  let fuel := (← get).rest.length + 2
  if let .document dropsTabs := kind then
    modify fun c => { c with readsMark := true }
    let t ← Token.next inner .plain fuel
    modify fun c => { c with readsMark := false }
    let .word w := t | unexpected t none
    let number := (← get).nextDocument
    modify fun c => { c with
      nextDocument := number + 1
      awaited := c.awaited ++ [⟨number, literalText w, hasQuotes w, dropsTabs⟩] }
    return .document stream number
  else
    let t ← Token.next inner .plain fuel
    let .word w := t | unexpected t none
    match kind with
    | .file opening => return .file stream opening w
    | _ => return .same stream w

structure Simple where
  assignments : List (String × Word)
  words : List Word
  redirections : List Redirection

def after (first : Option Script) (second : Script) : Script :=
  first.elim second (.sequence · second)

mutual

def list (place : ListPlace) (isFirst : Bool) (done : Option Script) :
    Nat → Reading (Option Script)
  | 0 => fail "out of room"
  | fuel + 1 => do
    let inner := expansion fuel
    let isInner := place ≠ .outermost
    let sight := { Token.Sight.command with passesLines := isInner }
    let t ← Token.next inner sight ((← get).rest.length + 2)
    match t with
    | .newline => do
      Token.readDocuments inner
      return done
    | .finish => do
      Token.readDocuments inner
      putBack t
      return done
    | _ =>
      putBack t
      if isInner && !(isFirst && place = .needed) && endsList t then return done
      let line := (← get).line
      let first ← andOr fuel
      let t ← Token.next inner .plain ((← get).rest.length + 2)
      let isBackground := t matches .operator "&"
      let done := some (after done (if isBackground then .background line first else first))
      match t with
      | .operator ";" | .operator "&" => list place false done fuel
      | .newline => do
        putBack t
        list place false done fuel
      | .finish => do
        Token.readDocuments inner
        putBack t
        return done
      | t =>
        if !isInner then unexpected t none
        putBack t
        return done

/-- The script of an expansion, which a parenthesis may have to end. -/
def expansion : Nat → Bool → Reading Script
  | 0, _ => fail "out of room"
  | fuel + 1, isClosed => do
    let s ← list .optional true none fuel
    if isClosed then expect (.operator ")") fuel
    return s.getD .nothing

def expect (wanted : Token) : Nat → Reading Unit
  | 0 => fail "out of room"
  | fuel + 1 => do
    let t ← Token.next (expansion fuel) .plain ((← get).rest.length + 2)
    if tokenText t ≠ tokenText wanted then unexpected t (some wanted)

def token (sight : Token.Sight) : Nat → Reading Token
  | 0 => fail "out of room"
  | fuel + 1 => do Token.next (expansion fuel) sight ((← get).rest.length + 2)

def inside : Nat → Reading Script
  | 0 => fail "out of room"
  | fuel + 1 => return (← list .needed true none fuel).getD .nothing

/-- Pipelines of which each runs by the success or the failure of those before it. -/
def andOr : Nat → Reading Script
  | 0 => fail "out of room"
  | fuel + 1 => do further (← pipe .plain fuel) fuel

def further (first : Script) : Nat → Reading Script
  | 0 => fail "out of room"
  | fuel + 1 => do
    match ← token .plain fuel with
    | .operator "&&" => further (.both first (← pipe .laterCommand fuel)) fuel
    | .operator "||" => further (.either first (← pipe .laterCommand fuel)) fuel
    | t => do
      putBack t
      return first

def pipe (sight : Token.Sight) : Nat → Reading Script
  | 0 => fail "out of room"
  | fuel + 1 => do
    let t ← token sight fuel
    let isNegated := t matches .keyword "!"
    if !isNegated then putBack t
    let first ← command (if isNegated then .command else .plain) fuel
    let all ← furtherCommands [first] fuel
    let body := match all with
      | [one] => one
      | all => .pipeline all
    return if isNegated then .negated body else body

def furtherCommands (before : List Script) : Nat → Reading (List Script)
  | 0 => fail "out of room"
  | fuel + 1 => do
    match ← token .plain fuel with
    | .operator "|" => furtherCommands (before ++ [← command .laterCommand fuel]) fuel
    | t => do
      putBack t
      return before

def command (sight : Token.Sight) : Nat → Reading Script
  | 0 => fail "out of room"
  | fuel + 1 => do
    let line := (← get).line
    let t ← token sight fuel
    match t with
    | .word _ | .redirection .. => do
      putBack t
      simple (← get).line ⟨[], [], []⟩ fuel
    | t => do
      let body ← compound line t fuel
      let rs ← redirections fuel
      return if rs.isEmpty then body
        else match body with
          | .subshell line body [] => .subshell line body rs
          | body => .redirected line body rs

def compound (line : Nat) (t : Token) : Nat → Reading Script
  | 0 => fail "out of room"
  | fuel + 1 => do
    match t with
    | .keyword "if" => branches fuel
    | .keyword "while" => repetition false fuel
    | .keyword "until" => repetition true fuel
    | .keyword "for" => forEach line fuel
    | .keyword "case" => do
      let t ← token .plain fuel
      let .word w := t | unexpected t (some (.word []))
      let t ← token .laterCommand fuel
      if !(t matches .keyword "in") then unexpected t (some (.keyword "in"))
      return .select line w (← cases fuel)
    | .operator "(" => do
      let body ← inside fuel
      expect (.operator ")") fuel
      return .subshell line body []
    | .keyword "\x7b" => do
      let body ← inside fuel
      expect (.keyword "\x7d") fuel
      return body
    | t => unexpected t none

def redirections : Nat → Reading (List Redirection)
  | 0 => fail "out of room"
  | fuel + 1 => do
    match ← token .command fuel with
    | .redirection stream kind => do
      let r ← target (expansion fuel) stream kind
      return r :: (← redirections fuel)
    | t => do
      putBack t
      return []

/-- A simple command, whose redirections may stand anywhere; or a function. -/
def simple (line : Nat) (s : Simple) : Nat → Reading Script
  | 0 => fail "out of room"
  | fuel + 1 => do
    let isOpen := s.words.isEmpty
    let t ← token { Token.Sight.plain with replacesAliases := isOpen } fuel
    match t with
    | .word w =>
      match if isOpen then assignment? w else none with
      | some a => simple line { s with assignments := s.assignments ++ [a] } fuel
      | none => simple line { s with words := s.words ++ [w] } fuel
    | .redirection stream kind => do
      let r ← target (expansion fuel) stream kind
      simple line { s with redirections := s.redirections ++ [r] } fuel
    | t =>
      match t, s with
      | .operator "(", ⟨[], [w], []⟩ => do
        expect (.operator ")") fuel
        let name := (w.plain?).getD []
        if !Token.isName name || specialNames.contains (String.ofList name) then
          fail "Bad function name"
        let line := (← get).line
        return .function line (String.ofList name) (← command .laterCommand fuel)
      | t, s => do
        putBack t
        return .simple line s.assignments s.words s.redirections

def branches : Nat → Reading Script
  | 0 => fail "out of room"
  | fuel + 1 => do
    let test ← inside fuel
    expect (.keyword "then") fuel
    let yes ← inside fuel
    match ← token .plain fuel with
    | .keyword "elif" => return .conditional test yes (← branches fuel)
    | .keyword "else" => do
      let no ← inside fuel
      expect (.keyword "fi") fuel
      return .conditional test yes no
    | t => do
      putBack t
      expect (.keyword "fi") fuel
      return .conditional test yes .nothing

def repetition (isUntil : Bool) : Nat → Reading Script
  | 0 => fail "out of room"
  | fuel + 1 => do
    let test ← inside fuel
    expect (.keyword "do") fuel
    let body ← inside fuel
    expect (.keyword "done") fuel
    return .loop isUntil test body

def forEach (line : Nat) : Nat → Reading Script
  | 0 => fail "out of room"
  | fuel + 1 => do
    let name := match ← token .plain fuel with
      | .word w => w.plain?.getD []
      | _ => []
    if !Token.isName name then fail "Bad for loop variable"
    let t ← token .laterCommand fuel
    let words ←
      if t matches .keyword "in" then do
        let (words, t) ← words fuel
        if !(t matches .newline | .operator ";") then unexpected t none
        pure words
      else do
        if !(t matches .operator ";") then putBack t
        pure [Word.allArguments]
    let t ← token .laterCommand fuel
    if !(t matches .keyword "do") then unexpected t (some (.keyword "do"))
    let body ← inside fuel
    expect (.keyword "done") fuel
    return .forEach line (String.ofList name) words body

def words : Nat → Reading (List Word × Token)
  | 0 => fail "out of room"
  | fuel + 1 => do
    match ← token .plain fuel with
    | .word w => do
      let (ws, t) ← words fuel
      return (w :: ws, t)
    | t => return ([], t)

def cases : Nat → Reading (List (List Word × Script))
  | 0 => fail "out of room"
  | fuel + 1 => do
    let t ← token { Token.Sight.plain with passesLines := true, knowsKeywords := true } fuel
    if t matches .keyword "esac" then return []
    let t ← if t matches .operator "(" then token .plain fuel else pure t
    let patterns ← patterns t fuel
    let body := (← list .optional true none fuel).getD .nothing
    let t ← token { Token.Sight.plain with passesLines := true, knowsKeywords := true } fuel
    match t with
    | .keyword "esac" => return [(patterns, body)]
    | .operator ";;" => return (patterns, body) :: (← cases fuel)
    | t => unexpected t (some (.operator ";;"))

/-- The patterns of a case, between bars; whatever stands in the place of one counts as a pattern
until it is seen how they end. -/
def patterns (first : Token) : Nat → Reading (List Word)
  | 0 => fail "out of room"
  | fuel + 1 => do
    let w := match first with
      | .word w => w
      | .keyword name => [.literal name.toList false]
      | _ => []
    match ← token .plain fuel with
    | .operator "|" => return w :: (← patterns (← token .plain fuel) fuel)
    | .operator ")" => return [w]
    | t => unexpected t (some (.operator ")"))

end

def quotedText : Reading Word := do
  let fuel := 12 * (← get).rest.length + 64
  Token.parts (expansion fuel) (.document [] false) .empty fuel

/-- The next complete command; none at the end of the text. -/
def completeCommand : Reading (Option Script) := do
  let c ← get
  let fuel := 12 * c.rest.length + 64
  match ← list .outermost true none fuel with
  | some s => return some s
  | none =>
    if (← get).pushed matches some .finish then return none else return some .nothing

end Reading

end Scaffold.Shell
