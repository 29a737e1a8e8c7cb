/-
  Rubric.Yaml.Token

  The tokens of a YAML text.

  Block structure shows in the tokens: where a line is indented deeper than what
  holds it, a token opens a sequence or a mapping, and where the indentation
  ends, a token closes it. A mapping key need not be marked as one. It is
  recognized by the colon behind it, so that the place of a possible key is kept
  until its line ends, and the tokens that mark it are put in there afterwards.
-/
import Rubric.Text.Line

namespace Rubric.Yaml

/-- A token. -/
inductive Token where
  | version (major minor : Nat)
  | tagHandle (handle stem : String)
  | documentStart
  | documentEnd
  | openSequence
  | openMapping
  | closeBlock
  | leftBracket
  | rightBracket
  | leftBrace
  | rightBrace
  | comma
  | dash
  | key
  | value
  | alias (name : String)
  | anchor (name : String)
  | tag (handle suffix : String)
  | scalar (text : String) (plain : Bool)
deriving DecidableEq, Repr, Inhabited

/-! ## Characters -/

/-- Whether a character may occur in a text at all. -/
def isAllowed (c : Char) : Bool :=
  let n := c.toNat
  n == 0x09 || n == 0x0A || n == 0x0D || (0x20 ≤ n && n ≤ 0x7E) || n == 0x85
    || (0xA0 ≤ n && n ≤ 0xD7FF) || (0xE000 ≤ n && n ≤ 0xFFFD) || 0x10000 ≤ n

/-- Whether a character separates words of a line. -/
def isSpace (c : Char) : Bool := c == ' ' || c == '\t'

/-- Whether a character ends a line. -/
def isBreak (c : Char) : Bool :=
  c == '\n' || c == '\r' || c == '\u0085' || c == '\u2028' || c == '\u2029'

/-- Whether a line or the text ends here. -/
def atBreak : List Char → Bool
  | [] => true
  | c :: _ => isBreak c

/-- Whether a word ends here. -/
def atBlank : List Char → Bool
  | [] => true
  | c :: _ => isSpace c || isBreak c

/-- Whether a character may stand in names of anchors, tags and directives. -/
def isWordChar (c : Char) : Bool :=
  c.isAlphanum || c == '_' || c == '-'

/-- What a line break counts as. -/
def breakChar (c : Char) : Char :=
  if c == '\u2028' || c == '\u2029' then c else '\n'

/-! ## Places -/

/-- A place in the text: what is still to be read, and where that is. -/
structure Cursor where
  rest : List Char
  index : Nat := 0
  line : Nat := 0
  column : Nat := 0
deriving Repr, Inhabited

namespace Cursor

/-- The place `n` characters further on in the same line. -/
def skip (c : Cursor) (n : Nat) : Cursor :=
  { c with rest := c.rest.drop n, index := c.index + n, column := c.column + n }

/-- The place after the characters with a property, which hold no line break. -/
def skipWhile (c : Cursor) (p : Char → Bool) : Cursor :=
  c.skip (c.rest.takeWhile p).length

/-- The start of the next line. -/
def skipBreak (c : Cursor) : Cursor :=
  match c.rest with
  | '\r' :: '\n' :: rest => ⟨rest, c.index + 2, c.line + 1, 0⟩
  | _ :: rest => ⟨rest, c.index + 1, c.line + 1, 0⟩
  | [] => c

/-- The rest of the line, which may only hold a comment, is passed over. -/
def skipComment? (c : Cursor) : Option Cursor :=
  let c := c.skipWhile isSpace
  let c := match c.rest with
    | '#' :: _ => c.skipWhile fun x => !isBreak x
    | _ => c
  if atBreak c.rest then some c.skipBreak else none

/-- Whether a marker of a document's start or end stands here. -/
def atMarker (c : Cursor) : Bool :=
  c.column == 0 &&
    match c.rest with
    | '-' :: '-' :: '-' :: rest => atBlank rest
    | '.' :: '.' :: '.' :: rest => atBlank rest
    | _ => false

end Cursor

/-! ## What stands between the words of a scalar -/

/-- Blanks and line breaks between two words, the last first. -/
structure Gap where
  /-- Blanks, as long as there is no break. -/
  blanks : List Char := []
  /-- The first break. -/
  leading : List Char := []
  /-- The breaks after it. -/
  trailing : List Char := []
  broken : Bool := false
deriving Repr, Inhabited

/-- What a break and those after it amount to: a single line break is a blank. -/
def foldBreaks (leading trailing : List Char) : List Char :=
  match leading with
  | '\n' :: _ => if trailing.isEmpty then [' '] else trailing
  | _ => trailing ++ leading

/-- What a gap amounts to, the last character first. -/
def Gap.chars (gap : Gap) : List Char :=
  if gap.broken then foldBreaks gap.leading gap.trailing else gap.blanks

/-- Reads a gap. In a plain scalar a tab must not stand left of column `floor`. -/
def readGap (floor : Nat) : (fuel : Nat) → Cursor → Gap → Option (Cursor × Gap)
  | 0, _, _ => none
  | fuel + 1, c, gap =>
    match c.rest with
    | [] => some (c, gap)
    | x :: _ =>
      if isSpace x then
        if gap.broken then
          if x == '\t' && c.column < floor then none else readGap floor fuel (c.skip 1) gap
        else readGap floor fuel (c.skip 1) { gap with blanks := x :: gap.blanks }
      else if isBreak x then
        if gap.broken then
          readGap floor fuel c.skipBreak { gap with trailing := breakChar x :: gap.trailing }
        else
          readGap floor fuel c.skipBreak
            { gap with blanks := [], leading := [breakChar x], broken := true }
      else some (c, gap)

/-! ## Plain scalars -/

/-- Whether a character has a meaning of its own between brackets and braces. -/
def isFlowMark (c : Char) : Bool :=
  c == ',' || c == '[' || c == ']' || c == '\x7b' || c == '\x7d'

/-- The characters of a word of a plain scalar, the last first. -/
def readWord (flow : Bool) (word : List Char) : List Char → Option (List Char)
  | [] => some word
  | c :: rest =>
    if isSpace c || isBreak c then some word
    else if c == ':' && atBlank rest then some word
    else if flow && c == ':' && (rest.head?.any fun d => isFlowMark d || d == '?') then none
    else if flow && isFlowMark c then some word
    else readWord flow (c :: word) rest

/-- Reads a plain scalar. `text` is what was read, the last first, and the answer
    also says whether the scalar ended with a line. -/
def readPlain (flow : Bool) (floor : Nat) :
    (fuel : Nat) → Cursor → (text : List Char) → Gap → Option (List Char × Bool × Cursor)
  | 0, _, _, _ => none
  | fuel + 1, c, text, gap =>
    if c.atMarker || c.rest.head? == some '#' then some (text, gap.broken, c)
    else
      match readWord flow [] c.rest with
      | none => none
      | some word =>
        let text := if word.isEmpty then text else word ++ (gap.chars ++ text)
        let gap := if word.isEmpty then gap else {}
        let c := c.skip word.length
        if !(c.rest.head?.any fun x => isSpace x || isBreak x) then some (text, gap.broken, c)
        else
          match readGap floor (c.rest.length + 1) c gap with
          | none => none
          | some (c, gap) =>
            if !flow && c.column < floor then some (text, gap.broken, c)
            else readPlain flow floor fuel c text gap

/-! ## Quoted scalars -/

/-- The number that hexadecimal digits denote. -/
def hexNumber? : (acc : Nat) → List Char → Option Nat
  | acc, [] => some acc
  | acc, c :: rest =>
    if c.isDigit then hexNumber? (acc * 16 + (c.toNat - '0'.toNat)) rest
    else if 'a' ≤ c && c ≤ 'f' then hexNumber? (acc * 16 + (c.toNat - 'a'.toNat + 10)) rest
    else if 'A' ≤ c && c ≤ 'F' then hexNumber? (acc * 16 + (c.toNat - 'A'.toNat + 10)) rest
    else none

/-- The character that stands behind a backslash and the digits of its number. -/
def numberedChar? (digits : Nat) (rest : List Char) : Option Char :=
  let code := rest.take digits
  if code.length < digits then none
  else (hexNumber? 0 code).bind fun n => if h : n.isValidChar then some (Char.ofNatAux n h) else none

/-- The character that an escape stands for, and the length of the escape behind
    the backslash. -/
def escaped? : List Char → Option (Char × Nat)
  | [] => none
  | c :: rest =>
    match c with
    | '0' => some ('\u0000', 1)
    | 'a' => some ('\u0007', 1)
    | 'b' => some ('\u0008', 1)
    | 't' => some ('\t', 1)
    | '\t' => some ('\t', 1)
    | 'n' => some ('\n', 1)
    | 'v' => some ('\u000b', 1)
    | 'f' => some ('\u000c', 1)
    | 'r' => some ('\r', 1)
    | 'e' => some ('\u001b', 1)
    | ' ' => some (' ', 1)
    | '"' => some ('"', 1)
    | '/' => some ('/', 1)
    | '\\' => some ('\\', 1)
    | 'N' => some ('\u0085', 1)
    | '_' => some ('\u00a0', 1)
    | 'L' => some ('\u2028', 1)
    | 'P' => some ('\u2029', 1)
    | 'x' => (numberedChar? 2 rest).map (·, 3)
    | 'u' => (numberedChar? 4 rest).map (·, 5)
    | 'U' => (numberedChar? 8 rest).map (·, 9)
    | _ => none

/-- Reads the characters of a quoted scalar up to a blank, the closing quote or an
    escaped line break, and says whether the last it was. -/
def readQuotedWord (single : Bool) :
    (fuel : Nat) → Cursor → (text : List Char) → Option (List Char × Bool × Cursor)
  | 0, _, _ => none
  | fuel + 1, c, text =>
    match c.rest with
    | [] => some (text, false, c)
    | x :: rest =>
      if isSpace x || isBreak x then some (text, false, c)
      else if single then
        if x == '\'' then
          if rest.head? == some '\'' then readQuotedWord single fuel (c.skip 2) ('\'' :: text)
          else some (text, false, c)
        else readQuotedWord single fuel (c.skip 1) (x :: text)
      else if x == '"' then some (text, false, c)
      else if x == '\\' then
        if rest.head?.any isBreak then some (text, true, (c.skip 1).skipBreak)
        else
          match escaped? rest with
          | some (y, n) => readQuotedWord single fuel (c.skip (n + 1)) (y :: text)
          | none => none
      else readQuotedWord single fuel (c.skip 1) (x :: text)

/-- Reads a quoted scalar from behind its opening quote. -/
def readQuoted (single : Bool) :
    (fuel : Nat) → Cursor → (text : List Char) → Option (List Char × Cursor)
  | 0, _, _ => none
  | fuel + 1, c, text =>
    if c.atMarker || c.rest.isEmpty then none
    else
      match readQuotedWord single (c.rest.length + 1) c text with
      | none => none
      | some (text, escapedBreak, c) =>
        if c.rest.head? == some (if single then '\'' else '"') then some (text, c.skip 1)
        else
          match readGap 0 (c.rest.length + 1) c { broken := escapedBreak } with
          | none => none
          | some (c, gap) => readQuoted single fuel c (gap.chars ++ text)

/-! ## Block scalars -/

/-- What becomes of the line breaks at the end of a block scalar. -/
inductive Chomping where
  | strip
  | clip
  | keep
deriving DecidableEq, Repr, Inhabited

/-- The chomping that a mark asks for. -/
def chomping? : Char → Option Chomping
  | '+' => some .keep
  | '-' => some .strip
  | _ => none

/-- The indentation that a digit asks for. -/
def indentDigit? (c : Char) : Option Nat :=
  if '1' ≤ c && c ≤ '9' then some (c.toNat - '0'.toNat) else none

/-- Reads the marks of a block scalar's first line, in either order. -/
def readBlockMarks (c : Cursor) : Option (Chomping × Option Nat × Cursor) :=
  match c.rest with
  | x :: rest =>
    match chomping? x with
    | some chomping =>
      match rest.head? with
      | some '0' => none
      | some d =>
        match indentDigit? d with
        | some n => some (chomping, some n, c.skip 2)
        | none => some (chomping, none, c.skip 1)
      | none => some (chomping, none, c.skip 1)
    | none =>
      if x == '0' then none
      else
        match indentDigit? x with
        | none => some (.clip, none, c)
        | some n =>
          match rest.head?.bind chomping? with
          | some chomping => some (chomping, some n, c.skip 2)
          | none => some (.clip, some n, c.skip 1)
  | [] => some (.clip, none, c)

/-- Passes over the indentation and the empty lines before a line of a block
    scalar. `indent` is none as long as it is not known; then `deepest` is the
    deepest indentation met. The breaks have the last first. -/
def readBlankLines (indent : Option Nat) :
    (fuel : Nat) → Cursor → (deepest : Nat) → (breaks : List Char) →
      Option (Cursor × Nat × List Char)
  | 0, _, _, _ => none
  | fuel + 1, c, deepest, breaks =>
    let blanks := (c.rest.takeWhile (· == ' ')).length
    let c := match indent with
      | some n => c.skip (min blanks (n - c.column))
      | none => c.skip blanks
    let deepest := max deepest c.column
    match c.rest with
    | [] => some (c, deepest, breaks)
    | x :: _ =>
      if x == '\t' && indent.all (c.column < ·) then none
      else if isBreak x then
        readBlankLines indent fuel c.skipBreak deepest (breakChar x :: breaks)
      else some (c, deepest, breaks)

/-- Reads the lines of a block scalar. `leading` is the break of the last line,
    `trailing` those after it, and `blankBefore` says whether the last line
    started with a blank. -/
def readBlockLines (literal : Bool) (indent : Nat) :
    (fuel : Nat) → Cursor → (text leading trailing : List Char) → (blankBefore : Bool) →
      Option (List Char × List Char × List Char × Cursor)
  | 0, _, _, _, _, _ => none
  | fuel + 1, c, text, leading, trailing, blankBefore =>
    if c.column != indent || c.rest.isEmpty then some (text, leading, trailing, c)
    else
      let blankHere := c.rest.head?.any isSpace
      let folds := !literal && leading.head? == some '\n' && !blankBefore && !blankHere
      let text :=
        if folds then (if trailing.isEmpty then ' ' :: text else trailing ++ text)
        else trailing ++ (leading ++ text)
      let line := c.rest.takeWhile fun x => !isBreak x
      let c := c.skip line.length
      let leading := match c.rest with
        | x :: _ => [breakChar x]
        | [] => []
      match readBlankLines (some indent) (c.rest.length + 1) c.skipBreak 0 [] with
      | none => none
      | some (c, _, trailing) =>
        readBlockLines literal indent fuel c (line.reverse ++ text) leading trailing blankHere

/-- Reads a block scalar from behind its first mark. `outer` is the indentation of
    what holds it. -/
def readBlock (literal : Bool) (outer : Int) (c : Cursor) : Option (List Char × Cursor) :=
  match readBlockMarks c with
  | none => none
  | some (chomping, digit, c) =>
    match c.skipComment? with
    | none => none
    | some c =>
      let fixed := digit.map fun n => (max outer 0).toNat + n
      match readBlankLines fixed (c.rest.length + 1) c 0 [] with
      | none => none
      | some (c, deepest, breaks) =>
        let indent := fixed.getD (max (max deepest (outer + 1).toNat) 1)
        match readBlockLines literal indent (c.rest.length + 1) c [] [] breaks false with
        | none => none
        | some (text, leading, trailing, c) =>
          some (match chomping with
            | .strip => text
            | .clip => leading ++ text
            | .keep => trailing ++ (leading ++ text), c)

/-! ## Anchors, tags and directives -/

/-- Reads the name of an anchor or an alias from behind its mark. -/
def readName (c : Cursor) : Option (String × Cursor) :=
  let name := c.rest.takeWhile isWordChar
  let after := c.skip name.length
  let ends := atBlank after.rest || after.rest.head?.any fun x => "?:,]\x7d%@`".toList.contains x
  if name.isEmpty || !ends then none else some (String.ofList name, after)

/-- Whether a character may stand in a tag. -/
def isTagChar (verbatim : Bool) (c : Char) : Bool :=
  isWordChar c || ";/?:@&=+$.!~*'()%".toList.contains c
    || (verbatim && (c == ',' || c == '[' || c == ']'))

/-- The bytes that follow the first one of a character, by that byte. -/
def followers? (first : Nat) : Option Nat :=
  if first < 0x80 then some 0
  else if 0xC0 ≤ first && first < 0xE0 then some 1
  else if 0xE0 ≤ first && first < 0xF0 then some 2
  else if 0xF0 ≤ first && first < 0xF8 then some 3
  else none

/-- Reads the escapes of the further bytes of a character. -/
def readFollowers : (n acc : Nat) → List Char → Option (Nat × List Char)
  | 0, acc, rest => some (acc, rest)
  | n + 1, acc, '%' :: a :: b :: rest =>
    match hexNumber? 0 [a, b] with
    | some byte =>
      if 0x80 ≤ byte && byte < 0xC0 then readFollowers n (acc * 64 + byte % 64) rest else none
    | none => none
  | _ + 1, _, _ => none

/-- Replaces the percent escapes of a tag. -/
def unescapeTag : (fuel : Nat) → List Char → Option (List Char)
  | 0, _ => some []
  | _ + 1, [] => some []
  | fuel + 1, '%' :: a :: b :: rest =>
    match hexNumber? 0 [a, b] with
    | none => none
    | some byte =>
      match followers? byte with
      | none => none
      | some n =>
        let lead := if n == 0 then byte else byte % Nat.pow 2 (6 - n)
        match readFollowers n lead rest with
        | none => none
        | some (code, rest) =>
          if h : code.isValidChar then
            (unescapeTag fuel rest).map (Char.ofNatAux code h :: ·)
          else none
  | fuel + 1, c :: rest =>
    if c == '%' then none else (unescapeTag fuel rest).map (c :: ·)

/-- Reads the characters of a tag. -/
def readTagText (verbatim : Bool) (c : Cursor) : Option (String × Cursor) :=
  let text := c.rest.takeWhile (isTagChar verbatim)
  (unescapeTag (text.length + 1) text).map fun cs => (String.ofList cs, c.skip text.length)

/-- Reads a tag from its exclamation mark on. -/
def readTag (flow : Bool) (c : Cursor) : Option (Token × Cursor) :=
  let found : Option (Token × Cursor) :=
    match c.rest with
    | '!' :: '<' :: _ =>
      match readTagText true (c.skip 2) with
      | some (text, c) =>
        if text.isEmpty || c.rest.head? != some '>' then none
        else some (.tag "" text, c.skip 1)
      | none => none
    | _ =>
      let word := (c.rest.drop 1).takeWhile isWordChar
      let handle := '!' :: word
      let after := c.skip handle.length
      if after.rest.head? == some '!' then
        match readTagText false (after.skip 1) with
        | some (text, c) =>
          if text.isEmpty then none else some (.tag (String.ofList (handle ++ ['!'])) text, c)
        | none => none
      else
        match readTagText false after with
        | some (text, c) =>
          let suffix := String.ofList word ++ text
          if suffix.isEmpty then some (.tag "" "!", c) else some (.tag "!" suffix, c)
        | none => none
  match found with
  | some (token, c) =>
    if atBlank c.rest || (flow && c.rest.head? == some ',') then some (token, c) else none
  | none => none

/-- Reads a number of a version. -/
def readVersionNumber (c : Cursor) : Option (Nat × Cursor) :=
  let digits := c.rest.takeWhile Char.isDigit
  if digits.isEmpty || 9 < digits.length then none
  else some (digits.foldl (fun n d => n * 10 + (d.toNat - '0'.toNat)) 0, c.skip digits.length)

/-- Reads a directive from behind its percent sign. -/
def readDirective (c : Cursor) : Option (Token × Cursor) :=
  let name := c.rest.takeWhile isWordChar
  let c := c.skip name.length
  if name.isEmpty || !atBlank c.rest then none
  else
    let c := c.skipWhile isSpace
    let found : Option (Token × Cursor) :=
      if String.ofList name == "YAML" then
        match readVersionNumber c with
        | some (major, c) =>
          if c.rest.head? != some '.' then none
          else (readVersionNumber (c.skip 1)).map fun (minor, c) => (.version major minor, c)
        | none => none
      else if String.ofList name == "TAG" then
        if c.rest.head? != some '!' then none
        else
          let word := (c.rest.drop 1).takeWhile isWordChar
          let c := c.skip (word.length + 1)
          let marked := c.rest.head? == some '!'
          if !marked && !word.isEmpty then none
          else
            let handle := '!' :: word ++ (if marked then ['!'] else [])
            let c := if marked then c.skip 1 else c
            if !(c.rest.head?.any isSpace) then none
            else
              match readTagText true (c.skipWhile isSpace) with
              | some (stem, c) =>
                if stem.isEmpty || !atBlank c.rest then none
                else some (.tagHandle (String.ofList handle) stem, c)
              | none => none
      else none
    match found with
    | some (token, c) => c.skipComment?.map fun c => (token, c)
    | none => none

end Rubric.Yaml
