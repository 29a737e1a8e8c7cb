/-
  Rubric.Toml.Reader

  Reading TOML texts.

  A text is a list of lines, each with an entry or a header; only brackets,
  braces and the strings with three quotes let a line go on. Every reader takes
  the text from its front and answers with what is left.
-/
import Rubric.Toml.Table

namespace Rubric.Toml

/-- A value that was read, and the text after it. -/
abbrev Read (α : Type) := Option (α × List Char)

/-! ## Blanks, comments and lines -/

/-- Whether a character separates the parts of a line. -/
def isSpace (c : Char) : Bool := c == ' ' || c == '\t'

/-- Whether a character may not stand in comments and strings. -/
def isControl (c : Char) : Bool :=
  (c.toNat < 0x20 && c != '\t') || c == '\x7f'

/-- The text without the blanks in front. -/
def skipSpace (cs : List Char) : List Char := cs.dropWhile isSpace

/-- The text after the comment in front, if one is there. -/
def skipComment? (cs : List Char) : Option (List Char) :=
  match cs with
  | '#' :: rest =>
    match rest.dropWhile fun c => !isControl c with
    | [] => some []
    | '\n' :: rest => some ('\n' :: rest)
    | '\r' :: '\n' :: rest => some ('\n' :: rest)
    | _ => none
  | cs => some cs

/-- The text after the rest of a line, which must be blank but for a comment. -/
def endLine? (cs : List Char) : Option (List Char) :=
  match skipComment? (skipSpace cs) with
  | some [] => some []
  | some ('\n' :: rest) => some rest
  | some ('\r' :: '\n' :: rest) => some rest
  | _ => none

/-- The text after blanks, comments and line ends. -/
def skipLines? : (fuel : Nat) → List Char → Option (List Char)
  | 0, _ => none
  | fuel + 1, cs =>
    match skipComment? (skipSpace cs) with
    | none => none
    | some ('\n' :: rest) => skipLines? fuel rest
    | some ('\r' :: '\n' :: rest) => skipLines? fuel rest
    | some cs => some cs

/-! ## Strings -/

/-- The number that hexadecimal digits denote. -/
def hexNumber? (cs : List Char) : Option Nat :=
  cs.foldl (fun acc c => acc.bind fun n =>
    if c.isDigit then some (n * 16 + (c.toNat - '0'.toNat))
    else if 'a' ≤ c && c ≤ 'f' then some (n * 16 + (c.toNat - 'a'.toNat + 10))
    else if 'A' ≤ c && c ≤ 'F' then some (n * 16 + (c.toNat - 'A'.toNat + 10))
    else none) (some 0)

/-- The character whose number stands in front. -/
def readNumbered (digits : Nat) (cs : List Char) : Read Char :=
  let code := cs.take digits
  if code.length < digits then none
  else
    match hexNumber? code with
    | some n => if h : n.isValidChar then some (Char.ofNatAux n h, cs.drop digits) else none
    | none => none

/-- The character that an escape denotes, read from behind the backslash. -/
def readEscape : List Char → Read Char
  | 'b' :: rest => some ('\u0008', rest)
  | 't' :: rest => some ('\t', rest)
  | 'n' :: rest => some ('\n', rest)
  | 'f' :: rest => some ('\u000c', rest)
  | 'r' :: rest => some ('\r', rest)
  | 'e' :: rest => some ('\u001b', rest)
  | '"' :: rest => some ('"', rest)
  | '\\' :: rest => some ('\\', rest)
  | 'x' :: rest => readNumbered 2 rest
  | 'u' :: rest => readNumbered 4 rest
  | 'U' :: rest => readNumbered 8 rest
  | _ => none

/-- Reads a string up to its double quote. `text` is what was read, the last first. -/
def readBasic : (fuel : Nat) → (text : List Char) → List Char → Read String
  | 0, _, _ => none
  | _ + 1, _, [] => none
  | _ + 1, text, '"' :: rest => some (String.ofList text.reverse, rest)
  | fuel + 1, text, '\\' :: rest =>
    match readEscape rest with
    | some (c, rest) => readBasic fuel (c :: text) rest
    | none => none
  | fuel + 1, text, c :: rest => if isControl c then none else readBasic fuel (c :: text) rest

/-- Reads a string up to its single quote. -/
def readLiteral (cs : List Char) : Read String :=
  let text := cs.takeWhile fun c => c != '\'' && !isControl c
  match cs.drop text.length with
  | '\'' :: rest => some (String.ofList text, rest)
  | _ => none

/-- Whether only blanks are left on the line; then the text after all blanks and
    line ends. -/
def skipFolded? (cs : List Char) : Option (List Char) :=
  match skipSpace cs with
  | '\n' :: rest => some (rest.dropWhile fun c => isSpace c || c == '\n' || c == '\r')
  | '\r' :: '\n' :: rest => some (rest.dropWhile fun c => isSpace c || c == '\n' || c == '\r')
  | _ => none

/-- Reads a string up to its three quotes. Two more quotes in front of them belong
    to the string. Escapes are read where `escapes` says so. -/
def readLong (quote : Char) (escapes : Bool) :
    (fuel : Nat) → (text : List Char) → List Char → Read String
  | 0, _, _ => none
  | fuel + 1, text, cs =>
    match cs with
    | [] => none
    | c :: rest =>
      if c == quote then
        let quotes := cs.takeWhile (· == quote)
        if 3 ≤ quotes.length then
          let extra := min 2 (quotes.length - 3)
          some (String.ofList (List.replicate extra quote ++ text).reverse, cs.drop (extra + 3))
        else readLong quote escapes fuel (c :: text) rest
      else if c == '\\' && escapes then
        match skipFolded? rest with
        | some rest => readLong quote escapes fuel text rest
        | none =>
          match readEscape rest with
          | some (c, rest) => readLong quote escapes fuel (c :: text) rest
          | none => none
      else if c == '\n' then readLong quote escapes fuel (c :: text) rest
      else if c == '\r' && rest.head? == some '\n' then readLong quote escapes fuel (c :: text) rest
      else if isControl c then none
      else readLong quote escapes fuel (c :: text) rest

/-- The text without a line end in front. -/
def dropFirstBreak : List Char → List Char
  | '\n' :: rest => rest
  | '\r' :: '\n' :: rest => rest
  | cs => cs

/-- Reads a string from its first quote on. -/
def readString (cs : List Char) : Read String :=
  match cs with
  | '"' :: '"' :: '"' :: rest => readLong '"' true (rest.length + 1) [] (dropFirstBreak rest)
  | '"' :: rest => readBasic (rest.length + 1) [] rest
  | '\'' :: '\'' :: '\'' :: rest =>
    readLong '\'' false (rest.length + 1) [] (dropFirstBreak rest)
  | '\'' :: rest => readLiteral rest
  | _ => none

/-! ## Keys -/

/-- Whether a character may stand in a key without quotes. -/
def isKeyChar (c : Char) : Bool :=
  c.isAlphanum || c == '-' || c == '_'

/-- Reads one part of a key. -/
def readKeyPart (cs : List Char) : Read String :=
  match cs with
  | '"' :: rest => readBasic (rest.length + 1) [] rest
  | '\'' :: rest => readLiteral rest
  | cs =>
    let name := cs.takeWhile isKeyChar
    if name.isEmpty then none else some (String.ofList name, cs.drop name.length)

/-- Reads a key: its first parts, and its last one. -/
def readKey : (fuel : Nat) → List Char → Read (List String × String)
  | 0, _ => none
  | fuel + 1, cs =>
    match readKeyPart (skipSpace cs) with
    | none => none
    | some (part, rest) =>
      match skipSpace rest with
      | '.' :: rest =>
        (readKey fuel rest).map fun ((path, name), rest) => ((part :: path, name), rest)
      | rest => some (([], part), rest)

/-! ## Numbers -/

/-- Digits without the bars between them; every bar has a digit on each side. -/
def dropBars? : List Char → Option (List Char)
  | [] => none
  | [c] => if c == '_' then none else some [c]
  | '_' :: _ => none
  | c :: '_' :: rest => (dropBars? rest).map (c :: ·)
  | c :: rest => (dropBars? rest).map (c :: ·)

/-- The digit that a character is in a base. -/
def digit? (base : Nat) (c : Char) : Option Nat :=
  (hexNumber? [c]).bind fun n => if n < base then some n else none

/-- The number that digits denote in a base. -/
def digits? (base : Nat) (cs : List Char) : Option Nat :=
  (dropBars? cs).bind fun cs =>
    cs.foldl (fun acc c => acc.bind fun n => (digit? base c).map fun d => n * base + d) (some 0)

/-- The number that decimal digits denote, without a zero in front of others. -/
def whole? (cs : List Char) : Option Nat :=
  match cs with
  | '0' :: _ :: _ => none
  | cs => digits? 10 cs

/-- The power of ten behind an `e`. -/
def exponent? (cs : List Char) : Option Int :=
  match cs with
  | '-' :: ds => (digits? 10 ds).map fun n => -(n : Int)
  | '+' :: ds => (digits? 10 ds).map fun n => (n : Int)
  | ds => (digits? 10 ds).map fun n => (n : Int)

/-- The value of a number without a sign. -/
def unsigned? (negative : Bool) (cs : List Char) : Option Value :=
  if cs == "inf".toList then some (.special (if negative then "-inf" else "inf"))
  else if cs == "nan".toList then some (.special "NaN")
  else
    let whole := cs.takeWhile fun c => c.isDigit || c == '_'
    match cs.drop whole.length with
    | [] => (whole? whole).map fun n => .integer (if negative then -(n : Int) else n)
    | '.' :: rest =>
      let fraction := rest.takeWhile fun c => c.isDigit || c == '_'
      let power := match rest.drop fraction.length with
        | [] => some 0
        | e :: ds => if e == 'e' || e == 'E' then exponent? ds else none
      match whole? whole, dropBars? fraction, digits? 10 fraction, power with
      | some n, some places, some m, some e =>
        (Decimal.Binary64.ofDecimal? negative (n * Nat.pow 10 places.length + m)
          (e - places.length)).map Value.fraction
      | _, _, _, _ => none
    | e :: ds =>
      if e == 'e' || e == 'E' then
        match whole? whole, exponent? ds with
        | some n, some e =>
          (Decimal.Binary64.ofDecimal? negative n e).map Value.fraction
        | _, _ => none
      else none

/-- The value of a number. -/
def number? (cs : List Char) : Option Value :=
  match cs with
  | '0' :: 'x' :: ds => (digits? 16 ds).map fun n => .integer n
  | '0' :: 'o' :: ds => (digits? 8 ds).map fun n => .integer n
  | '0' :: 'b' :: ds => (digits? 2 ds).map fun n => .integer n
  | '+' :: rest => unsigned? false rest
  | '-' :: rest => unsigned? true rest
  | cs => unsigned? false cs

/-! ## Dates and times -/

/-- The number of a fixed count of digits in front. -/
def readDigits (count : Nat) (cs : List Char) : Read Nat :=
  let ds := cs.take count
  if ds.length == count && ds.all Char.isDigit then (digits? 10 ds).map (·, cs.drop count) else none

/-- The days of a month. -/
def daysIn (year month : Nat) : Nat :=
  if month == 2 then
    if year % 4 == 0 && (year % 100 != 0 || year % 400 == 0) then 29 else 28
  else if [4, 6, 9, 11].contains month then 30
  else 31

/-- The text after the date in front. -/
def skipDate? (cs : List Char) : Option (List Char) :=
  match readDigits 4 cs with
  | some (year, '-' :: cs) =>
    match readDigits 2 cs with
    | some (month, '-' :: cs) =>
      match readDigits 2 cs with
      | some (day, cs) =>
        if 1 ≤ month && month ≤ 12 && 1 ≤ day && day ≤ daysIn year month then some cs else none
      | none => none
    | _ => none
  | _ => none

/-- The text after two digits with a limit, and what they say. -/
def skipPart? (limit : Nat) (cs : List Char) : Option (List Char) :=
  match readDigits 2 cs with
  | some (n, cs) => if n ≤ limit then some cs else none
  | none => none

/-- The text after the time in front. Seconds and their fraction may be left out. -/
def skipTime? (cs : List Char) : Option (List Char) :=
  match skipPart? 23 cs with
  | some (':' :: cs) =>
    match skipPart? 59 cs with
    | some (':' :: cs) =>
      match skipPart? 60 cs with
      | some ('.' :: cs) =>
        if cs.head?.any Char.isDigit then some (cs.dropWhile Char.isDigit) else none
      | rest => rest
    | rest => rest
  | _ => none

/-- The text after the offset in front, if there is one. -/
def skipOffset? (cs : List Char) : Option (List Char) :=
  let signed := fun cs => match skipPart? 23 cs with
    | some (':' :: cs) => skipPart? 59 cs
    | _ => none
  match cs with
  | 'Z' :: cs => some cs
  | 'z' :: cs => some cs
  | '+' :: cs => signed cs
  | '-' :: cs => signed cs
  | cs => some cs

/-- Whether a text is a date, a time or both. -/
def isTime (cs : List Char) : Bool :=
  match skipDate? cs with
  | some [] => true
  | some (c :: rest) =>
    (c == 'T' || c == 't' || c == ' ') &&
      ((skipTime? rest).bind skipOffset?).any List.isEmpty
  | none => (skipTime? cs).any List.isEmpty

/-- Whether a character may stand in a value that is not in quotes. -/
def isAtomChar (c : Char) : Bool :=
  c.isAlphanum || c == '+' || c == '-' || c == '_' || c == '.' || c == ':'

/-- Reads a value that is not in quotes. The blank between a date and a time is
    part of it. -/
def readAtom (cs : List Char) : Read Value :=
  let first := cs.takeWhile isAtomChar
  let rest := cs.drop first.length
  let (atom, rest) := match rest with
    | ' ' :: d :: after =>
      if d.isDigit && (skipDate? first).any List.isEmpty then
        let second := (d :: after).takeWhile isAtomChar
        (first ++ ' ' :: second, (d :: after).drop second.length)
      else (first, rest)
    | _ => (first, rest)
  let value : Option Value :=
    if atom == "true".toList then some (.bool true)
    else if atom == "false".toList then some (.bool false)
    else if isTime atom then some (.time (String.ofList atom))
    else number? atom
  value.map (·, rest)

/-! ## Values -/

/-- How deep arrays and tables in braces may be nested. -/
def nestingLimit : Nat := 80

mutual

/-- Reads a value below which at most `room` levels are. -/
def readValue : (fuel room : Nat) → List Char → Read Value
  | 0, _, _ => none
  | fuel + 1, room, cs =>
    match cs with
    | '[' :: rest =>
      if room = 0 then none
      else (readItems fuel (room - 1) rest).map fun (items, rest) => (.array items, rest)
    | '\x7b' :: rest =>
      if room = 0 then none
      else
        (readBraced fuel (room - 1) [] rest).map fun (fields, rest) =>
          (.table .braced fields, rest)
    | '"' :: _ => (readString cs).map fun (s, rest) => (.string s, rest)
    | '\'' :: _ => (readString cs).map fun (s, rest) => (.string s, rest)
    | cs => readAtom cs

/-- Reads the items of an array up to its bracket. -/
def readItems : (fuel room : Nat) → List Char → Read (List Value)
  | 0, _, _ => none
  | fuel + 1, room, cs =>
    match skipLines? (cs.length + 1) cs with
    | some (']' :: rest) => some ([], rest)
    | some cs =>
      match readValue fuel room cs with
      | none => none
      | some (x, rest) =>
        match skipLines? (rest.length + 1) rest with
        | some (']' :: rest) => some ([x], rest)
        | some (',' :: rest) => (readItems fuel room rest).map fun (xs, rest) => (x :: xs, rest)
        | _ => none
    | none => none

/-- Reads the entries of a table up to its brace, after those that are there. -/
def readBraced : (fuel room : Nat) → Fields → List Char → Read Fields
  | 0, _, _, _ => none
  | fuel + 1, room, fields, cs =>
    match skipLines? (cs.length + 1) cs with
    | some ('\x7d' :: rest) => some (fields, rest)
    | some cs =>
      match readKey (cs.length + 1) cs with
      | some ((path, name), '=' :: rest) =>
        match readValue fuel room (skipSpace rest) with
        | none => none
        | some (x, rest) =>
          match Fields.put path name x .opened fields with
          | none => none
          | some fields =>
            match skipLines? (rest.length + 1) rest with
            | some ('\x7d' :: rest) => some (fields, rest)
            | some (',' :: rest) => readBraced fuel room fields rest
            | _ => none
      | _ => none
    | none => none

end

/-! ## Texts -/

/-- A header: the path of a table, and whether it is one of several. -/
structure Header where
  path : List String
  name : String
  several : Bool
deriving Repr, Inhabited

/-- Reads a header from its bracket on. -/
def readHeader (cs : List Char) : Read Header :=
  match cs with
  | '[' :: '[' :: rest =>
    match readKey (rest.length + 1) rest with
    | some ((path, name), ']' :: ']' :: rest) => some (⟨path, name, true⟩, rest)
    | _ => none
  | '[' :: rest =>
    match readKey (rest.length + 1) rest with
    | some ((path, name), ']' :: rest) => some (⟨path, name, false⟩, rest)
    | _ => none
  | _ => none

/-- What is known between two lines: the tables that are finished, and the one
    that the last header opened. -/
structure State where
  root : Fields := []
  header : Option Header := none
  current : Fields := []
deriving Inhabited

/-- Puts the table of the last header into its place. -/
def State.finish? (s : State) : Option Fields :=
  match s.header with
  | none => some s.current
  | some h =>
    Fields.changeAt false (fun _ above =>
      if h.several then Fields.addTable h.name s.current above
      else some (above ++ [(h.name, .table .opened s.current)])) h.path .opened s.root

/-- Opens the table of a header. -/
def State.start? (h : Header) (root : Fields) : Option State :=
  if h.several then
    (Fields.changeAt false (fun _ above =>
      match Fields.get? h.name above with
      | none => some above
      | some (.tables _) => some above
      | some _ => none) h.path .opened root).map fun root => ⟨root, some h, []⟩
  else
    let found := Fields.changeAt false (fun _ above =>
      (Fields.takeOpened h.name above).map Prod.snd) h.path .opened root
    let entries := fieldsAt h.path root
    found.map fun root => ⟨root, some h, ((entries.bind (Fields.takeOpened h.name)).map
      Prod.fst).getD []⟩
where
  /-- The entries of the table at the end of a path. -/
  fieldsAt : List String → Fields → Option Fields
    | [], fields => some fields
    | name :: path, fields =>
      match Fields.get? name fields with
      | some (.table _ inner) => fieldsAt path inner
      | some (.tables items) => items.getLast?.bind (fieldsAt path)
      | _ => none

/-- Reads lines to the end of the text. -/
def readLines : (fuel : Nat) → State → List Char → Option Fields
  | 0, _, _ => none
  | fuel + 1, s, cs =>
    match skipLines? (cs.length + 1) cs with
    | none => none
    | some [] => s.finish?
    | some ('[' :: rest) =>
      match readHeader ('[' :: rest) with
      | none => none
      | some (h, rest) =>
        match endLine? rest, s.finish?.bind (State.start? h) with
        | some rest, some s => readLines fuel s rest
        | _, _ => none
    | some cs =>
      match readKey (cs.length + 1) cs with
      | some ((path, name), '=' :: rest) =>
        match readValue (rest.length + 1) nestingLimit (skipSpace rest) with
        | none => none
        | some (x, rest) =>
          match endLine? rest, Fields.put path name x .opened s.current with
          | some rest, some fields => readLines fuel { s with current := fields } rest
          | _, _ => none
      | _ => none

/-- The value of a TOML text, if it is one. -/
def parse? (text : String) : Option Value :=
  let cs := match text.toList with
    | '\ufeff' :: rest => rest
    | cs => cs
  (readLines (cs.length + 1) {} cs).map (.table .opened)

end Rubric.Toml
