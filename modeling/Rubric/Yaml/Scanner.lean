/-
  Rubric.Yaml.Scanner

  Reading the tokens of a YAML text one after another.

  `Scan` is what is known between two tokens: the place, the tokens so far with
  the last one first, the open indentations, and for every open bracket the place
  where a key may have started.
-/
import Rubric.Yaml.Token

namespace Rubric.Yaml

/-- A place where a mapping key may have started. -/
structure KeyPlace where
  /-- A key must be here, because the line would make no sense otherwise. -/
  required : Bool
  /-- The number of tokens before it. -/
  tokens : Nat
  index : Nat
  line : Nat
  column : Nat
deriving Repr, Inhabited

/-- What is known between two tokens. -/
structure Scan where
  here : Cursor
  /-- The tokens so far, the last first. -/
  tokens : List Token := []
  count : Nat := 0
  /-- The indentation of the innermost block, or -1 outside of all. -/
  indent : Int := -1
  /-- The indentations of the blocks around it. -/
  indents : List Int := []
  /-- Whether a key may start here. -/
  keyAllowed : Bool := true
  /-- The places of possible keys, one for every open bracket and one for the
      blocks around them. -/
  keys : List (Option KeyPlace) := [none]
deriving Repr, Inhabited

namespace Scan

/-- Whether the place is between brackets or braces. -/
def inFlow (s : Scan) : Bool := 1 < s.keys.length

/-- Adds a token at the end. -/
def emit (token : Token) (s : Scan) : Scan :=
  { s with tokens := token :: s.tokens, count := s.count + 1 }

/-- Puts tokens in before the last `back` ones. -/
def putBefore (added : List Token) : (back : Nat) → List Token → List Token
  | 0, tokens => added ++ tokens
  | _ + 1, [] => added
  | back + 1, t :: tokens => t :: putBefore added back tokens

/-- Moves on in the text. -/
def goTo (here : Cursor) (s : Scan) : Scan := { s with here := here }

/-- Says whether a key may start next. -/
def allowKey (allowed : Bool) (s : Scan) : Scan := { s with keyAllowed := allowed }

/-- Closes the blocks that are indented deeper than a column. -/
def closeBlocks (column : Int) (s : Scan) : Scan :=
  if s.inFlow then s
  else
    let deeper := (s.indent :: s.indents).takeWhile fun n => column < n
    match (s.indent :: s.indents).dropWhile fun n => column < n with
    | [] => s
    | indent :: indents =>
      { s with
        tokens := List.replicate deeper.length Token.closeBlock ++ s.tokens
        count := s.count + deeper.length
        indent := indent
        indents := indents }

/-- Opens a block at a column, unless there is one. -/
def openBlock (column : Nat) (token : Token) (s : Scan) : Scan :=
  if !s.inFlow && s.indent < (column : Int) then
    { s.emit token with indent := column, indents := s.indent :: s.indents }
  else s

/-- Forgets the place of a possible key, which must not be a required one. -/
def dropKey? (s : Scan) : Option Scan :=
  match s.keys with
  | some place :: keys => if place.required then none else some { s with keys := none :: keys }
  | _ => some s

/-- Remembers that a key may start here. -/
def saveKey? (s : Scan) : Option Scan :=
  if s.keyAllowed then
    match s.dropKey? with
    | none => none
    | some s =>
      let place : KeyPlace :=
        ⟨!s.inFlow && s.indent == (s.here.column : Int), s.count, s.here.index, s.here.line,
          s.here.column⟩
      some { s with keys := some place :: s.keys.tail }
  else some s

/-- The length that a key must not exceed. -/
def keyLimit : Nat := 1024

/-- Whether a place is too far back for a key to have started there. -/
def KeyPlace.isStale (here : Cursor) (place : KeyPlace) : Bool :=
  place.line < here.line || place.index + keyLimit < here.index

/-- Forgets the places that are too far back. -/
def dropStale? (s : Scan) : Option Scan :=
  let stale := fun place : Option KeyPlace => place.any (KeyPlace.isStale s.here)
  if s.keys.any fun place => stale place && place.any KeyPlace.required then none
  else some { s with keys := s.keys.map fun place => if stale place then none else place }

/-- Passes over blanks, comments and line breaks. -/
def skipToToken : (fuel : Nat) → Scan → Scan
  | 0, s => s
  | fuel + 1, s =>
    let here := match s.here.rest with
      | '\ufeff' :: _ => if s.here.index == 0 then s.here.skip 1 else s.here
      | _ => s.here
    let tabs := s.inFlow || !s.keyAllowed
    let here := here.skipWhile fun c => c == ' ' || (tabs && c == '\t')
    let here := match here.rest with
      | '#' :: _ => here.skipWhile fun c => !isBreak c
      | _ => here
    match here.rest with
    | c :: _ =>
      if isBreak c then
        skipToToken fuel { s with here := here.skipBreak, keyAllowed := s.keyAllowed || !s.inFlow }
      else s.goTo here
    | [] => s.goTo here

/-! ## One token -/

/-- A bracket or brace that opens. -/
def readOpening? (token : Token) (s : Scan) : Option Scan :=
  s.saveKey?.map fun s =>
    ({ s with keys := none :: s.keys, keyAllowed := true }.goTo (s.here.skip 1)).emit token

/-- A bracket or brace that closes. -/
def readClosing? (token : Token) (s : Scan) : Option Scan :=
  s.dropKey?.map fun s =>
    ({ s with
        keys := if s.inFlow then s.keys.tail else s.keys
        keyAllowed := false }.goTo (s.here.skip 1)).emit token

/-- The mark of a document's start or end. -/
def readMarker? (token : Token) (s : Scan) : Option Scan :=
  (s.closeBlocks (-1)).dropKey?.map fun s =>
    ((s.allowKey false).goTo (s.here.skip 3)).emit token

/-- A comma between items. -/
def readComma? (s : Scan) : Option Scan :=
  s.dropKey?.map fun s => ((s.allowKey true).goTo (s.here.skip 1)).emit .comma

/-- The mark of a block item. -/
def readDash? (s : Scan) : Option Scan :=
  if !s.inFlow && !s.keyAllowed then none
  else
    (s.openBlock s.here.column .openSequence).dropKey?.map fun s =>
      ((s.allowKey true).goTo (s.here.skip 1)).emit .dash

/-- The mark of a key. -/
def readKey? (s : Scan) : Option Scan :=
  if !s.inFlow && !s.keyAllowed then none
  else
    (s.openBlock s.here.column .openMapping).dropKey?.map fun s =>
      ((s.allowKey !s.inFlow).goTo (s.here.skip 1)).emit .key

/-- The mark of a value. If a key may have started earlier, it did. -/
def readValue? (s : Scan) : Option Scan :=
  match s.keys with
  | some place :: keys =>
    let opens := !s.inFlow && s.indent < (place.column : Int)
    let added := if opens then [.key, .openMapping] else [Token.key]
    let s := { s with
      tokens := putBefore added (s.count - place.tokens) s.tokens
      count := s.count + added.length
      keys := none :: keys
      indent := if opens then place.column else s.indent
      indents := if opens then s.indent :: s.indents else s.indents }
    some (((s.allowKey false).goTo (s.here.skip 1)).emit .value)
  | _ =>
    if !s.inFlow && !s.keyAllowed then none
    else
      let s := s.openBlock s.here.column .openMapping
      some (((s.allowKey !s.inFlow).goTo (s.here.skip 1)).emit .value)

/-- A token that may be a key, and the place behind it. -/
def readSimple? (found : Option (Token × Cursor)) (s : Scan) : Option Scan :=
  match s.saveKey? with
  | none => none
  | some s => found.map fun (token, here) => ((s.allowKey false).goTo here).emit token

/-- A plain scalar. -/
def readPlain? (s : Scan) : Option Scan :=
  match s.saveKey? with
  | none => none
  | some s =>
    match readPlain s.inFlow (s.indent + 1).toNat (s.here.rest.length + 1) s.here [] {} with
    | none => none
    | some (text, broken, here) =>
      some (((s.allowKey broken).goTo here).emit (.scalar (String.ofList text.reverse) true))

/-- A quoted scalar. -/
def readQuoted? (single : Bool) (s : Scan) : Option Scan :=
  s.readSimple?
    ((readQuoted single (s.here.rest.length + 1) (s.here.skip 1) []).map fun (text, here) =>
      (.scalar (String.ofList text.reverse) false, here))

/-- A block scalar. -/
def readBlock? (literal : Bool) (s : Scan) : Option Scan :=
  match s.dropKey? with
  | none => none
  | some s =>
    match readBlock literal s.indent (s.here.skip 1) with
    | none => none
    | some (text, here) =>
      some (((s.allowKey true).goTo here).emit (.scalar (String.ofList text.reverse) false))

/-- A directive. -/
def readDirective? (s : Scan) : Option Scan :=
  match (s.closeBlocks (-1)).dropKey? with
  | none => none
  | some s =>
    (readDirective (s.here.skip 1)).map fun (token, here) =>
      ((s.allowKey false).goTo here).emit token

/-- Whether a plain scalar may start here. -/
def startsPlain (flow : Bool) (c : Char) (rest : List Char) : Bool :=
  !("-?:,[]\x7b\x7d#&*!|>'\"%@`".toList.contains c || isSpace c || isBreak c)
    || (c == '-' && !(rest.head?.any isSpace))
    || (!flow && (c == '?' || c == ':') && !atBlank rest)

/-- The next token, which starts with a given character. -/
def readToken? (c : Char) (rest : List Char) (s : Scan) : Option Scan :=
  let flow := s.inFlow
  let after := s.here.skip 1
  if s.here.column == 0 && c == '%' then s.readDirective?
  else if s.here.atMarker then
    s.readMarker? (if c == '-' then .documentStart else .documentEnd)
  else if c == '[' then s.readOpening? .leftBracket
  else if c == '\x7b' then s.readOpening? .leftBrace
  else if c == ']' then s.readClosing? .rightBracket
  else if c == '\x7d' then s.readClosing? .rightBrace
  else if c == ',' then s.readComma?
  else if c == '-' && atBlank rest then s.readDash?
  else if c == '?' && (flow || atBlank rest) then s.readKey?
  else if c == ':' && (flow || atBlank rest) then s.readValue?
  else if c == '*' then
    s.readSimple? ((readName after).map fun (name, here) => (.alias name, here))
  else if c == '&' then
    s.readSimple? ((readName after).map fun (name, here) => (.anchor name, here))
  else if c == '!' then s.readSimple? (readTag flow s.here)
  else if c == '|' && !flow then s.readBlock? true
  else if c == '>' && !flow then s.readBlock? false
  else if c == '\'' then s.readQuoted? true
  else if c == '"' then s.readQuoted? false
  else if startsPlain flow c rest then s.readPlain?
  else none

/-- Reads tokens to the end of the text. -/
def readAll : (fuel : Nat) → Scan → Option Scan
  | 0, _ => none
  | fuel + 1, s =>
    let s := s.skipToToken (s.here.rest.length + 1)
    match s.dropStale? with
    | none => none
    | some s =>
      match s.here.rest with
      | [] => (s.closeBlocks (-1)).dropKey?
      | c :: rest =>
        match (s.closeBlocks s.here.column).readToken? c rest with
        | none => none
        | some s => readAll fuel s

end Scan

/-- The tokens of a text. -/
def Token.ofText? (text : String) : Option (List Token) :=
  let chars := match text.toList with
    | '\ufeff' :: rest => rest
    | cs => cs
  if chars.all isAllowed then
    ((Scan.readAll (chars.length + 1) { here := ⟨chars, 0, 0, 0⟩ }).map fun s => s.tokens.reverse)
  else none

end Rubric.Yaml
