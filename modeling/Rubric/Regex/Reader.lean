/-
  Rubric.Regex.Reader

  Reading patterns.

  The reader works from left to right with a set of flags that an inline group
  such as `(?i)` changes up to the end of the group around it. It answers nothing
  for a text that is no pattern; look-around and back-references are none. Of the
  properties with values it knows general categories and scripts, and neither ages
  nor the classes for breaking text.
-/
import Rubric.Regex.Basic
import Rubric.Regex.Pattern
import Rubric.Unicode.Script
import Rubric.Unicode.Letter
import Rubric.Text.Blank

namespace Rubric.Regex

/-- What inline flags can change. -/
structure Flags where
  ignoreCase : Bool := false
  multiLine : Bool := false
  dotAll : Bool := false
  crlf : Bool := false
  verbose : Bool := false
  unicode : Bool := true
deriving DecidableEq, Repr, Inhabited

/-- How high the syntax tree of a pattern may be. Single characters, conditions and
    named sets are leaves. -/
def nestingLimit : Nat := 250

/-- The height of a node over the heights of its parts. A single part stands for itself. -/
def heightOver : (heights : List Nat) → Nat
  | [] => 0
  | [height] => height
  | heights => heights.foldl max 0 + 1

/-- How large the automaton of a pattern may become, in bytes. -/
def sizeLimit : Nat := 10 * Nat.pow 2 20

/-- The largest count of a repetition. -/
def countLimit : Nat := Nat.pow 2 32 - 1

/-! ## Space -/

/-- Drops a comment up to the end of its line. -/
def dropComment : List Char → List Char
  | [] => []
  | c :: cs => if c == '\n' then cs else dropComment cs

/-- Drops white space and comments. -/
def dropSpace : (fuel : Nat) → List Char → List Char
  | 0, cs => cs
  | fuel + 1, cs =>
    match cs with
    | [] => []
    | c :: rest =>
      if Text.isBlank c then dropSpace fuel rest
      else if c == '#' then dropSpace fuel (dropComment rest)
      else c :: rest

/-- Drops what a verbose pattern does not count. -/
def skip (flags : Flags) (cs : List Char) : List Char :=
  if flags.verbose then dropSpace (cs.length + 1) cs else cs

/-! ## Names of properties -/

/-- A name in lower case, without spaces, hyphens and underscores and without a
    leading `is`. -/
def plainName (name : List Char) : String :=
  let cs := (name.filter fun c => !(c == ' ' || c == '-' || c == '_')).map Char.toLower
  match cs with
  | 'i' :: 's' :: rest => if rest == ['c'] then "isc" else String.ofList rest
  | _ => String.ofList cs

/-- The code points that a general category or one of the wide classes holds. -/
def generalCategory? (name : String) : Option CharSet :=
  if name == "any" then some [(0, CharSet.top)]
  else if name == "ascii" then some [(0, 0x7f)]
  else if name == "assigned" then (Unicode.category? "cn").map CharSet.complement
  else Unicode.category? name

/-- The code points a property name stands for. -/
def namedSet? (name : List Char) : Option CharSet :=
  let plain := plainName name
  let asProperty := if plain == "cf" || plain == "sc" || plain == "lc" then none
    else Unicode.property? plain
  (asProperty.or (generalCategory? plain)).or (Unicode.script? plain)

/-- The code points for which a property has a value. -/
def valueSet? (property value : List Char) : Option CharSet :=
  let p := plainName property
  let v := plainName value
  if p == "gc" || p == "generalcategory" then generalCategory? v
  else if p == "sc" || p == "script" || p == "scx" || p == "scriptextensions" then Unicode.script? v
  else none

/-- The code points of what stands between the braces of `\p\x7b...\x7d`, and whether
    they are to be left out. -/
def bracedSet? (body : List Char) : Option (CharSet × Bool) :=
  let name := body.takeWhile fun c => !(c == '=' || c == ':')
  match body.drop name.length with
  | [] => (namedSet? body).map fun s => (s, false)
  | _ :: value =>
    if name.getLast? == some '!' then
      (valueSet? name.dropLast value).map fun s => (s, true)
    else (valueSet? name value).map fun s => (s, false)

/-! ## Escapes -/

/-- What an escape stands for. -/
inductive Escape where
  | char (c : Char)
  /-- A character given by its byte. -/
  | byte (n : Nat)
  | set (chars : CharSet)
  | look (look : Look)
deriving Repr, Inhabited

/-- Decimal digits. -/
def digitSet (unicode : Bool) : CharSet :=
  if unicode then (Unicode.category? "nd").getD [] else [(0x30, 0x39)]

/-- White space. -/
def spaceSet (unicode : Bool) : CharSet :=
  if unicode then (Unicode.property? "whitespace").getD [] else [(0x09, 0x0d), (0x20, 0x20)]

/-- Word characters. -/
def wordSetOf (unicode : Bool) : CharSet :=
  if unicode then wordSet else wordSetAscii

/-- The set of a class letter such as `d`, or of its capital for the complement.
    Without `unicode` the complement is not a set of characters. -/
def classLetter? (flags : Flags) (c : Char) : Option (Option CharSet) :=
  let u := flags.unicode
  let negated (s : CharSet) : Option CharSet := if u then some (CharSet.complement s) else none
  if c == 'd' then some (some (digitSet u))
  else if c == 's' then some (some (spaceSet u))
  else if c == 'w' then some (some (wordSetOf u))
  else if c == 'D' then some (negated (digitSet u))
  else if c == 'S' then some (negated (spaceSet u))
  else if c == 'W' then some (negated (wordSetOf u))
  else none

/-- The character with a code point, if there is one. -/
def charOf? (n : Nat) : Option Char :=
  if n < 0xd800 || (0xdfff < n && n ≤ CharSet.top) then some (Char.ofNat n) else none

/-- The number of hexadecimal digits, if there are only such. -/
def hexNumber? (ds : List Char) : Option Nat :=
  if ds.isEmpty || ds.any fun c => (Unicode.hexDigit? c).isNone then none
  else some (Unicode.hexValue ds)

/-- Reads a hexadecimal escape after its letter: braces, or `width` digits. -/
def readHex (flags : Flags) (width : Nat) (cs : List Char) : Option (Escape × List Char) :=
  match cs with
  | '\x7b' :: rest =>
    let digits := rest.takeWhile (· != '\x7d')
    match rest.drop digits.length with
    | _ :: after => ((hexNumber? digits).bind charOf?).map fun c => (.char c, after)
    | [] => none
  | _ =>
    if cs.length < width then none
    else
      match hexNumber? (cs.take width) with
      | none => none
      | some n =>
        if width == 2 && !flags.unicode && 0x7f < n then some (.byte n, cs.drop width)
        else (charOf? n).map fun c => (.char c, cs.drop width)

/-- Reads the name of a property after `\p` or `\P`. -/
def readProperty (flags : Flags) (negated : Bool) (cs : List Char) : Option (Escape × List Char) :=
  let finish (set : CharSet) (negated : Bool) (rest : List Char) : Option (Escape × List Char) :=
    if !flags.unicode then none
    else
      let set := if flags.ignoreCase then CharSet.foldCase true set else CharSet.tidy set
      some (.set (if negated then CharSet.complement set else set), rest)
  match cs with
  | [] => none
  | '\x7b' :: rest =>
    let body := rest.takeWhile (· != '\x7d')
    match rest.drop body.length with
    | _ :: after =>
      match bracedSet? body with
      | some (set, inverse) => finish set (negated != inverse) after
      | none => none
    | [] => none
  | c :: rest =>
    if c == '\\' then none
    else (namedSet? [c]).bind fun set => finish set negated rest

/-- Characters that mean something in patterns. -/
def isMeta (c : Char) : Bool :=
  "\\.+*?()|[]\x7b\x7d^$#&-~".toList.contains c

/-- Characters that may stand after a backslash for themselves. -/
def isEscapable (c : Char) : Bool :=
  isMeta c || (c.toNat < 0x80 && !c.isAlphanum && c != '<' && c != '>')

/-- Whether a character may stand in the name of a boundary. -/
def isBoundaryChar (c : Char) : Bool :=
  c.isAlpha || c == '-'

/-- Gathers the name of a boundary up to what cannot be part of one. -/
def boundaryName (flags : Flags) : (fuel : Nat) → List Char → List Char × List Char
  | 0, cs => ([], cs)
  | fuel + 1, cs =>
    match skip flags cs with
    | [] => ([], [])
    | c :: rest =>
      if isBoundaryChar c then
        let (name, after) := boundaryName flags fuel rest
        (c :: name, after)
      else ([], c :: rest)

/-- The condition in braces after `\b`, if that is one; nothing at all if the
    braces hold a name that is none. -/
def readBoundary (flags : Flags) (cs : List Char) : Option (Look × List Char) :=
  let unicode := flags.unicode
  match cs with
  | '\x7b' :: rest =>
    match skip flags rest with
    | [] => none
    | c :: _ =>
      if !isBoundaryChar c then some (.wordBoundary unicode, cs)
      else
        match boundaryName flags rest.length rest with
        | (name, '\x7d' :: after) =>
          let name := String.ofList name
          if name == "start" then some (.wordStart unicode, after)
          else if name == "end" then some (.wordEnd unicode, after)
          else if name == "start-half" then some (.wordStartHalf unicode, after)
          else if name == "end-half" then some (.wordEndHalf unicode, after)
          else none
        | _ => none
  | _ => some (.wordBoundary unicode, cs)

/-- Reads an escape after its backslash. -/
def readEscape (flags : Flags) (cs : List Char) : Option (Escape × List Char) :=
  match cs with
  | [] => none
  | c :: rest =>
    if c.isDigit then none
    else if c == 'x' then readHex flags 2 rest
    else if c == 'u' then readHex flags 4 rest
    else if c == 'U' then readHex flags 8 rest
    else if c == 'p' then readProperty flags false rest
    else if c == 'P' then readProperty flags true rest
    else
      match classLetter? flags c with
      | some (some set) => some (.set set, rest)
      | some none => none
      | none =>
        if isEscapable c then some (.char c, rest)
        else if c == 'a' then some (.char '\x07', rest)
        else if c == 'f' then some (.char '\x0c', rest)
        else if c == 't' then some (.char '\t', rest)
        else if c == 'n' then some (.char '\n', rest)
        else if c == 'r' then some (.char '\r', rest)
        else if c == 'v' then some (.char '\x0b', rest)
        else if c == 'A' then some (.look .textStart, rest)
        else if c == 'z' then some (.look .textEnd, rest)
        else if c == 'B' then some (.look (.notWordBoundary flags.unicode), rest)
        else if c == '<' then some (.look (.wordStart flags.unicode), rest)
        else if c == '>' then some (.look (.wordEnd flags.unicode), rest)
        else if c == 'b' then
          (readBoundary flags rest).map fun (look, rest) => (.look look, rest)
        else none

/-! ## Sets in brackets -/

/-- The named sets of ASCII characters. -/
def asciiSets : List (String × CharSet) :=
  [("alnum", [(0x30, 0x39), (0x41, 0x5a), (0x61, 0x7a)]),
   ("alpha", [(0x41, 0x5a), (0x61, 0x7a)]),
   ("ascii", [(0, 0x7f)]),
   ("blank", [(0x09, 0x09), (0x20, 0x20)]),
   ("cntrl", [(0, 0x1f), (0x7f, 0x7f)]),
   ("digit", [(0x30, 0x39)]),
   ("graph", [(0x21, 0x7e)]),
   ("lower", [(0x61, 0x7a)]),
   ("print", [(0x20, 0x7e)]),
   ("punct", [(0x21, 0x2f), (0x3a, 0x40), (0x5b, 0x60), (0x7b, 0x7e)]),
   ("space", [(0x09, 0x0d), (0x20, 0x20)]),
   ("upper", [(0x41, 0x5a)]),
   ("word", [(0x30, 0x39), (0x41, 0x5a), (0x5f, 0x5f), (0x61, 0x7a)]),
   ("xdigit", [(0x30, 0x39), (0x41, 0x46), (0x61, 0x66)])]

/-- Reads a named set such as `[:alpha:]` after its opening bracket. -/
def readAsciiSet? (cs : List Char) : Option (CharSet × List Char) :=
  match cs with
  | ':' :: rest =>
    let (negated, rest) := match rest with
      | '^' :: more => (true, more)
      | _ => (false, rest)
    let name := rest.takeWhile (· != ':')
    match rest.drop name.length with
    | ':' :: ']' :: after =>
      (asciiSets.find? fun entry => entry.1.toList == name).map fun entry =>
        (if negated then CharSet.complement entry.2 else entry.2, after)
    | _ => none
  | _ => none

/-- The operators between the parts of a set. -/
inductive SetOp where
  | inter
  | diff
  | symmDiff
deriving DecidableEq, Repr, Inhabited

/-- Joins two parts of a set. -/
def SetOp.apply : SetOp → CharSet → CharSet → CharSet
  | .inter, a, b => CharSet.inter a b
  | .diff, a, b => CharSet.diff a b
  | .symmDiff, a, b => CharSet.symmDiff a b

/-- One item of a set before ranges are formed: a character, or a set. -/
inductive SetItem where
  | char (n : Nat)
  | set (chars : CharSet)
deriving Repr, Inhabited

/-- The code points of an item. -/
def SetItem.chars : SetItem → CharSet
  | .char n => [(n, n)]
  | .set s => s

/-- Reads one item of a set. -/
def readSetItem (flags : Flags) (cs : List Char) : Option (SetItem × List Char) :=
  match cs with
  | [] => none
  | '\\' :: rest =>
    match readEscape flags rest with
    | some (.char c, rest) => some (.char c.toNat, rest)
    | some (.set s, rest) => some (.set s, rest)
    | _ => none
  | c :: rest => some (.char c.toNat, rest)

/-- The items of a set with case and negation taken into account; nothing if the
    set is not one of characters. -/
def finishSet (flags : Flags) (negated : Bool) (set : CharSet) : Option CharSet :=
  let set := if negated then CharSet.complement set else CharSet.tidy set
  if !flags.unicode && !CharSet.isAscii set then none else some set

/-- Case folding where it is asked for. -/
def foldSet (flags : Flags) (set : CharSet) : CharSet :=
  if flags.ignoreCase then CharSet.foldCase flags.unicode set else set

/-- Drops literal hyphens at the start of a set and counts them. -/
def leadingHyphens (flags : Flags) : (fuel : Nat) → List Char → Nat × List Char
  | 0, cs => (0, cs)
  | fuel + 1, cs =>
    match cs with
    | '-' :: rest =>
      let (count, rest) := leadingHyphens flags fuel (skip flags rest)
      (count + 1, rest)
    | _ => (0, cs)

/-- The items of a set between two operators: their code points, and the heights of
    the items. -/
structure Union where
  chars : CharSet := []
  heights : List Nat := []
deriving Repr, Inhabited

/-- Adds an item. -/
def Union.add (u : Union) (chars : CharSet) (height : Nat) : Union :=
  ⟨u.chars ++ chars, height :: u.heights⟩

/-- The literal hyphens or the literal bracket with which a set may begin, and whether
    it is negated. -/
def openSet (flags : Flags) (cs : List Char) : Bool × Union × List Char :=
  let cs := skip flags cs
  let (negated, cs) := match cs with
    | '^' :: more => (true, skip flags more)
    | _ => (false, cs)
  match leadingHyphens flags cs.length cs with
  | (0, ']' :: more) => (negated, ⟨[(0x5d, 0x5d)], [0]⟩, more)
  | (0, rest) => (negated, {}, rest)
  | (count, rest) => (negated, ⟨[(0x2d, 0x2d)], List.replicate count 0⟩, rest)

/-- What stands before the last operator of a set. -/
structure Operand where
  chars : CharSet
  height : Nat
  op : SetOp
deriving Repr, Inhabited

/-- Reads a set after what opens it. `left` is what stands before the last operator,
    `acc` the items gathered after it. What is read comes with its height. -/
def readSetBody (flags : Flags) : (fuel : Nat) → (negated : Bool) → (left : Option Operand) →
    (acc : Union) → List Char → Option (CharSet × Nat × List Char)
  | 0, _, _, _, _ => none
  | fuel + 1, negated, left, acc, cs =>
    let (chars, height) : CharSet × Nat := match left with
      | some l => (l.op.apply l.chars (foldSet flags acc.chars),
          max l.height (heightOver acc.heights) + 1)
      | none => (foldSet flags acc.chars, heightOver acc.heights)
    match skip flags cs with
    | [] => none
    | ']' :: rest => (finishSet flags negated chars).map fun s => (s, height + 1, rest)
    | '&' :: '&' :: rest => readSetBody flags fuel negated (some ⟨chars, height, .inter⟩) {} rest
    | '-' :: '-' :: rest => readSetBody flags fuel negated (some ⟨chars, height, .diff⟩) {} rest
    | '~' :: '~' :: rest =>
      readSetBody flags fuel negated (some ⟨chars, height, .symmDiff⟩) {} rest
    | '[' :: rest =>
      match readAsciiSet? rest with
      | some (set, rest) => readSetBody flags fuel negated left (acc.add set 0) rest
      | none =>
        let (innerNegated, start, inner) := openSet flags rest
        match readSetBody flags fuel innerNegated none start inner with
        | some (set, height, rest) => readSetBody flags fuel negated left (acc.add set height) rest
        | none => none
    | cs =>
      match readSetItem flags cs with
      | none => none
      | some (first, rest) =>
        let rest := skip flags rest
        match rest with
        | [] => none
        | '-' :: more =>
          match skip flags more with
          | [] => none
          | ']' :: _ => readSetBody flags fuel negated left (acc.add first.chars 0) rest
          | '-' :: _ => readSetBody flags fuel negated left (acc.add first.chars 0) rest
          | more =>
            match readSetItem flags more, first with
            | some (.char b, rest), .char a =>
              if a ≤ b then readSetBody flags fuel negated left (acc.add [(a, b)] 0) rest
              else none
            | _, _ => none
        | _ => readSetBody flags fuel negated left (acc.add first.chars 0) rest

/-- Reads a set after its opening bracket, from its leading marks on. -/
def readSet (flags : Flags) (cs : List Char) : Option (CharSet × Nat × List Char) :=
  let (negated, start, inner) := openSet flags cs
  readSetBody flags (2 * cs.length + 2) negated none start inner

/-! ## Groups and repetitions -/

/-- Reads flags up to a colon or a closing parenthesis, which is left. `seen` are
    the letters so far, `off` whether a hyphen was met, `fresh` whether a letter
    still has to follow it. -/
def readFlags (seen : List Char) (off fresh : Bool) (flags : Flags) :
    List Char → Option (Flags × List Char)
  | [] => none
  | c :: cs =>
    if c == ':' || c == ')' then (if fresh then none else some (flags, c :: cs))
    else if c == '-' then (if off then none else readFlags seen true true flags cs)
    else if seen.contains c then none
    else
      let on := !off
      let next : Option Flags :=
        if c == 'i' then some { flags with ignoreCase := on }
        else if c == 'm' then some { flags with multiLine := on }
        else if c == 's' then some { flags with dotAll := on }
        else if c == 'R' then some { flags with crlf := on }
        else if c == 'x' then some { flags with verbose := on }
        else if c == 'u' then some { flags with unicode := on }
        else if c == 'U' then some flags
        else none
      match next with
      | some flags => readFlags (c :: seen) off false flags cs
      | none => none

/-- Whether a name may be given to a group. -/
def isGroupName : List Char → Bool
  | [] => false
  | c :: cs =>
    let letter (c : Char) : Bool := c == '_' || (Unicode.isAlphanumeric c && !isNumeric c)
    letter c && cs.all fun c =>
      c == '_' || c == '.' || c == '[' || c == ']' || Unicode.isAlphanumeric c
where
  /-- Digits and other numbers. -/
  isNumeric (c : Char) : Bool :=
    CharSet.contains ((Unicode.category? "n").getD []) c.toNat

/-- Drops blank characters. -/
def dropBlank (cs : List Char) : List Char :=
  cs.dropWhile Text.isBlank

/-- Reads a count of a repetition. -/
def readCount (cs : List Char) : Option (Nat × List Char) :=
  let cs := dropBlank cs
  let digits := cs.takeWhile Char.isDigit
  let n := digits.foldl (fun a d => 10 * a + (d.toNat - '0'.toNat)) 0
  if digits.isEmpty || countLimit < n then none
  else some (n, dropBlank (cs.drop digits.length))

/-- Reads the bounds of a repetition after its opening brace. -/
def readBounds (flags : Flags) (cs : List Char) : Option (Nat × Option Nat × List Char) :=
  match readCount cs with
  | none => none
  | some (least, rest) =>
    match rest with
    | '\x7d' :: after => some (least, some least, after)
    | ',' :: more =>
      match skip flags more with
      | '\x7d' :: after => some (least, none, after)
      | more =>
        match readCount more with
        | some (most, '\x7d' :: after) =>
          if least ≤ most then some (least, some most, after) else none
        | _ => none
    | _ => none

/-- An expression with the height of the syntax tree it was read as. -/
structure Tree where
  expr : Expr
  height : Nat
deriving Repr, Inhabited

/-- A part of a sequence, and whether it can be repeated. -/
structure Part where
  tree : Tree
  repeatable : Bool
deriving Repr, Inhabited

/-- The sequence of parts, the last of which comes first in the list. -/
def sequence (parts : List Part) : Tree where
  expr := parts.foldl (fun acc part => match acc with
    | .empty => part.tree.expr
    | _ => .seq part.tree.expr acc) .empty
  height := heightOver (parts.map fun part => part.tree.height)

/-- The alternatives of a group, the last of which comes first in the list. -/
def alternatives : List Tree → Tree
  | [] => ⟨.empty, 0⟩
  | last :: before =>
    ⟨before.foldl (fun acc tree => .alt tree.expr acc) last.expr,
      heightOver ((last :: before).map Tree.height)⟩

/-- A character of a pattern. -/
def charExpr (flags : Flags) (c : Char) : Expr :=
  .set (foldSet flags (CharSet.single c))

/-- What a point stands for; nothing if that is not a set of characters. -/
def dotExpr? (flags : Flags) : Option Expr :=
  if !flags.unicode then none
  else if flags.dotAll then some (.set [(0, CharSet.top)])
  else if flags.crlf then some (.set (CharSet.complement [(0x0a, 0x0a), (0x0d, 0x0d)]))
  else some (.set (CharSet.complement [(0x0a, 0x0a)]))

/-- What is known while a group is read. -/
structure State where
  flags : Flags
  /-- Names given to groups so far. -/
  names : List (List Char)
  rest : List Char
deriving Repr, Inhabited

/-- Reads a group from its first alternative to its end, which is a closing
    parenthesis or the end of the text, and is left. `before` are the alternatives so
    far, the last one first, and `parts` is what there is of the next. -/
def readGroup : (fuel : Nat) → State → (before : List Tree) → (parts : List Part) →
    Option (Tree × State)
  | 0, _, _, _ => none
  | fuel + 1, state, before, parts =>
    let flags := state.flags
    let add (expr : Expr) (rest : List Char) (height : Nat) : Option (Tree × State) :=
      readGroup fuel { state with rest := rest } before (⟨⟨expr, height⟩, true⟩ :: parts)
    let repeated (least : Nat) (most : Option Nat) (rest : List Char) : Option (Tree × State) :=
      match parts with
      | part :: others =>
        if part.repeatable then
          let rest := skip flags rest
          let rest := match rest with
            | '?' :: more => more
            | _ => rest
          let tree := ⟨.repetition part.tree.expr least most, part.tree.height + 1⟩
          readGroup fuel { state with rest := rest } before (⟨tree, true⟩ :: others)
        else none
      | [] => none
    let enter (flags : Flags) (names : List (List Char)) (rest : List Char) :
        Option (Tree × State) :=
      match readGroup fuel ⟨flags, names, rest⟩ [] [] with
      | some (inner, after) =>
        match after.rest with
        | ')' :: rest =>
          readGroup fuel { state with names := after.names, rest := rest } before
            (⟨{ inner with height := inner.height + 1 }, true⟩ :: parts)
        | _ => none
      | none => none
    match skip flags state.rest with
    | [] => some (alternatives (sequence parts :: before), { state with rest := [] })
    | ')' :: rest =>
      some (alternatives (sequence parts :: before), { state with rest := ')' :: rest })
    | '|' :: rest => readGroup fuel { state with rest := rest } (sequence parts :: before) []
    | '?' :: rest => repeated 0 (some 1) rest
    | '*' :: rest => repeated 0 none rest
    | '+' :: rest => repeated 1 none rest
    | '\x7b' :: rest =>
      match parts with
      | [] => none
      | _ =>
        match readBounds flags rest with
        | some (least, most, rest) => repeated least most rest
        | none => none
    | '[' :: rest =>
      match readSet flags rest with
      | some (set, height, rest) => add (.set set) rest height
      | none => none
    | '.' :: rest => (dotExpr? flags).bind fun e => add e rest 0
    | '^' :: rest =>
      add (.look (if flags.multiLine then .lineStart flags.crlf else .textStart)) rest 0
    | '$' :: rest =>
      add (.look (if flags.multiLine then .lineEnd flags.crlf else .textEnd)) rest 0
    | '\\' :: rest =>
      match readEscape flags rest with
      | some (.char c, rest) => add (charExpr flags c) rest 0
      | some (.set s, rest) => add (.set s) rest 0
      | some (.look l, rest) => add (.look l) rest 0
      | _ => none
    | '(' :: '?' :: rest =>
      let named (rest : List Char) : Option (Tree × State) :=
        let name := rest.takeWhile (· != '>')
        match rest.drop name.length with
        | _ :: after =>
          if isGroupName name && !state.names.contains name then
            enter flags (name :: state.names) after
          else none
        | [] => none
      match rest with
      | '=' :: _ | '!' :: _ | '<' :: '=' :: _ | '<' :: '!' :: _ => none
      | 'P' :: '<' :: rest => named rest
      | '<' :: rest => named rest
      | ')' :: _ => none
      | _ =>
        match readFlags [] false false flags rest with
        | some (inner, ':' :: rest) => enter inner state.names rest
        | some (inner, ')' :: rest) =>
          readGroup fuel { state with flags := inner, rest := rest } before
            (⟨⟨.empty, 0⟩, false⟩ :: parts)
        | _ => none
    | '(' :: rest => enter flags state.names rest
    | c :: rest => add (charExpr flags c) rest 0

/-! ## Whole patterns -/

/-- The size of a state of an automaton, in bytes. -/
def stateSize : Nat := 32

/-- About how large the part of an automaton becomes that reads a character of a set.
    Sets of ASCII need one state; others need some for every range, because a
    character is read byte by byte. -/
def CharSet.size (set : CharSet) : Nat :=
  if CharSet.isAscii set then stateSize + 8 * (set.length - 1)
  else 8 * stateSize + 2 * stateSize * set.length

/-- About how large the automaton of an expression becomes when its repetitions are
    written out. -/
def Expr.size : Expr → Nat
  | .empty => 0
  | .set chars => chars.size
  | .look _ => stateSize
  | .seq a b => a.size + b.size
  | .alt a b => a.size + b.size + stateSize
  | .repetition body least most =>
    match most with
    | none => body.size * max 1 least + stateSize
    | some most => body.size * most + stateSize * (most - least)

/-- Reads a pattern. -/
def Expr.ofText? (pattern : String) : Option Expr :=
  let cs := pattern.toList
  match readGroup (3 * cs.length + 3) ⟨{}, [], cs⟩ [] [] with
  | some (tree, state) =>
    if state.rest.isEmpty && tree.height ≤ nestingLimit && tree.expr.size ≤ sizeLimit
    then some tree.expr else none
  | none => none

end Rubric.Regex

/-- The compiler that reads patterns this way. -/
def Rubric.Pattern.ofText? : Rubric.Regex.Compiler := fun source =>
  (Rubric.Regex.Expr.ofText? source).map fun expr => ⟨source, fun text => expr.isMatch text.toList⟩
