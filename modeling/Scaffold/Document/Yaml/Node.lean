import Scaffold.Document.Yaml.Lexer
import Scaffold.Document.Yaml.Reading

/-!
Trees from the tokens of YAML. Where the tokens end or make no sense the tree has a broken place, and
no token is left, so that everything around it ends there as well.
-/
namespace Scaffold.Document.Yaml

structure Rest where
  tokens : List Token
  handles : List (List Char × List UInt8)
  /-- The numbers of anchors: each gets as its own the count of names before it. -/
  names : List (List Char × Nat)
  /-- What stands under the anchors, by number and in the order in which they begin. -/
  anchors : Array (Nat × Tree)

namespace Rest

def next (r : Rest) : Rest := { r with tokens := r.tokens.drop 1 }

def stop (r : Rest) : Rest := { r with tokens := [] }

def begin (name : Option (List Char)) (r : Rest) : Option Nat × Rest :=
  match name with
  | some name =>
    let number := r.names.length
    (some r.anchors.size,
      { r with
        names := (name, number) :: r.names.filter (·.1 ≠ name)
        anchors := r.anchors.push (number, .broken) })
  | none => (none, r)

def define (place : Option Nat) (t : Tree) (r : Rest) : Tree × Rest :=
  match place with
  | some i => (t, { r with anchors := r.anchors.modify i fun (n, _) => (n, t) })
  | none => (t, r)

/-- What the numbers of anchors stand for; of two with one number it is the later. -/
def table (r : Rest) : Array Tree :=
  r.anchors.foldl (fun ts (n, t) => ts.set! n t) (Array.replicate r.anchors.size Tree.broken)

def meaning? (r : Rest) (handle : List Char) (suffix : List UInt8) : Option (List UInt8) :=
  if handle.isEmpty then some suffix
  else (r.handles.lookup handle).map (· ++ suffix)

end Rest

structure Properties where
  anchor : Option (List Char)
  tag : Option (List Char × List UInt8)

def Properties.isEmpty (p : Properties) : Bool := p.anchor.isNone && p.tag.isNone

def properties (r : Rest) : Properties × Rest :=
  match r.tokens with
  | .anchor a :: .tag h s :: _ => (⟨some a, some (h, s)⟩, r.next.next)
  | .tag h s :: .anchor a :: _ => (⟨some a, some (h, s)⟩, r.next.next)
  | .anchor a :: _ => (⟨some a, none⟩, r.next)
  | .tag h s :: _ => (⟨none, some (h, s)⟩, r.next)
  | _ => (⟨none, none⟩, r)

namespace Node

def isOwn (tag : Option (List UInt8)) : Bool :=
  tag.any fun bytes => Kind.ofTag bytes = .own && (String.fromUTF8? ⟨bytes.toArray⟩).isSome

def withTag (tag : Option (List UInt8)) (t : Tree) : Tree :=
  if isOwn tag then .tagged t else t

def scalar (tag : Option (List UInt8)) (style : ScalarStyle) (text : List Char) : Tree :=
  withTag tag (.scalar (Reading.scalar (tag.map .ofTag) style text))

def empty : Tree := scalar none .plain []

def broken (r : Rest) : Tree × Rest := (.broken, r.stop)

inductive Context where
  | flow
  | block
  | entry
  deriving DecidableEq

mutual

def read (context : Context) (r : Rest) : Nat → Tree × Rest
  | 0 => broken r
  | fuel + 1 =>
    match r.tokens with
    | .reference name :: _ =>
      match r.names.lookup name with
      | some n => (.reference n, r.next)
      | none => broken r
    | _ =>
      let (p, r) := properties r
      match p.tag with
      | some (handle, suffix) =>
        match r.meaning? handle suffix with
        | some tag => content context p (some tag) r fuel
        | none => broken r
      | none => content context p none r fuel

def content (context : Context) (p : Properties) (tag : Option (List UInt8)) (r : Rest) :
    Nat → Tree × Rest
  | 0 => broken r
  | fuel + 1 =>
    let finish (place : Option Nat) (t : Tree) (r : Rest) := r.define place (withTag tag t)
    match r.tokens with
    | .scalar style text :: _ =>
      let (place, r) := r.next.begin p.anchor
      r.define place (scalar tag style text)
    | .openList :: _ =>
      let (place, r) := r.next.begin p.anchor
      let (items, r) := flowItems true r fuel
      finish place (.list items) r
    | .openRecord :: _ =>
      let (place, r) := r.next.begin p.anchor
      let (entries, r) := flowEntries true r fuel
      finish place (.record entries) r
    | t :: _ =>
      if t = .dash && context = .entry then
        let (place, r) := r.begin p.anchor
        let (items, r) := entryItems r fuel
        finish place (.list items) r
      else if t = .blockList && context ≠ .flow then
        let (place, r) := r.next.begin p.anchor
        let (items, r) := blockItems r fuel
        finish place (.list items) r
      else if t = .blockRecord && context ≠ .flow then
        let (place, r) := r.next.begin p.anchor
        let (entries, r) := blockEntries r fuel
        finish place (.record entries) r
      else if p.isEmpty then broken r
      else
        let (place, r) := r.begin p.anchor
        r.define place (scalar tag .plain [])
    | [] => broken r

def orEmpty (context : Context) (without : List Token) (r : Rest) : Nat → Tree × Rest
  | 0 => broken r
  | fuel + 1 =>
    match r.tokens with
    | [] => broken r
    | t :: _ => if without.contains t then (empty, r) else read context r fuel

def blockItems (r : Rest) : Nat → List Tree × Rest
  | 0 => ([.broken], r.stop)
  | fuel + 1 =>
    match r.tokens with
    | .dash :: _ =>
      let (item, r) := orEmpty .block [.dash, .blockEnd] r.next fuel
      let (items, r) := blockItems r fuel
      (item :: items, r)
    | .blockEnd :: _ => ([], r.next)
    | _ => ([.broken], r.stop)

def entryItems (r : Rest) : Nat → List Tree × Rest
  | 0 => ([.broken], r.stop)
  | fuel + 1 =>
    match r.tokens with
    | .dash :: _ =>
      let (item, r) := orEmpty .block [.dash, .key, .value, .blockEnd] r.next fuel
      let (items, r) := entryItems r fuel
      (item :: items, r)
    | [] => ([.broken], r.stop)
    | _ => ([], r)

/-- The value of an entry, after its key; none is written when no colon is there. -/
def entryValue (context : Context) (without : List Token) (r : Rest) : Nat → Tree × Rest
  | 0 => broken r
  | fuel + 1 =>
    match r.tokens with
    | .value :: _ => orEmpty context without r.next fuel
    | [] => broken r
    | _ => (empty, r)

def blockEntries (r : Rest) : Nat → List (Tree × Tree) × Rest
  | 0 => ([(.broken, .broken)], r.stop)
  | fuel + 1 =>
    match r.tokens with
    | .key :: _ =>
      let without := [Token.key, .value, .blockEnd]
      let (key, r) := orEmpty .entry without r.next fuel
      let (value, r) := entryValue .entry without r fuel
      let (entries, r) := blockEntries r fuel
      ((key, value) :: entries, r)
    | .blockEnd :: _ => ([], r.next)
    | _ => ([(.broken, .broken)], r.stop)

/-- The items of a list in brackets; all but the first stand after a comma. -/
def flowItems (isFirst : Bool) (r : Rest) : Nat → List Tree × Rest
  | 0 => ([.broken], r.stop)
  | fuel + 1 =>
    match r.tokens with
    | .closeList :: _ => ([], r.next)
    | t :: _ =>
      if !isFirst && t ≠ .comma then ([.broken], r.stop)
      else
        let r := if isFirst then r else r.next
        match r.tokens with
        | .closeList :: _ => ([], r.next)
        | .key :: _ =>
          let (item, r) := flowPair r.next fuel
          let (items, r) := flowItems false r fuel
          (item :: items, r)
        | _ =>
          let (item, r) := read .flow r fuel
          let (items, r) := flowItems false r fuel
          (item :: items, r)
    | [] => ([.broken], r.stop)

/-- A record of one entry within a list in brackets. The token that stands in the place of a missing
key is passed over. -/
def flowPair (r : Rest) : Nat → Tree × Rest
  | 0 => broken r
  | fuel + 1 =>
    let (key, r) :=
      match r.tokens with
      | [] => broken r
      | t :: _ =>
        if [Token.value, .comma, .closeList].contains t then (empty, r.next) else read .flow r fuel
    let (value, r) := entryValue .flow [.comma, .closeList] r fuel
    (.record [(key, value)], r)

def flowEntries (isFirst : Bool) (r : Rest) : Nat → List (Tree × Tree) × Rest
  | 0 => ([(.broken, .broken)], r.stop)
  | fuel + 1 =>
    match r.tokens with
    | .closeRecord :: _ => ([], r.next)
    | t :: _ =>
      if !isFirst && t ≠ .comma then ([(.broken, .broken)], r.stop)
      else
        let r := if isFirst then r else r.next
        match r.tokens with
        | .closeRecord :: _ => ([], r.next)
        | .key :: _ =>
          let (key, r) := orEmpty .flow [.value, .comma, .closeRecord] r.next fuel
          let (value, r) := entryValue .flow [.comma, .closeRecord] r fuel
          let (entries, r) := flowEntries false r fuel
          ((key, value) :: entries, r)
        | _ =>
          let (key, r) := read .flow r fuel
          let value := if r.tokens.isEmpty then Tree.broken else empty
          let (entries, r) := flowEntries false r fuel
          ((key, value) :: entries, r)
    | [] => ([(.broken, .broken)], r.stop)

end

end Node

end Scaffold.Document.Yaml
