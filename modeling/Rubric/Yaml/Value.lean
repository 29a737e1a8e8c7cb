/-
  Rubric.Yaml.Value

  YAML texts as JSON values.

  What a plain scalar denotes is told from its text: null, a truth value, a
  number or else a string. Keys are always strings, whatever they look like. A
  key that occurs twice keeps its first place and takes its last value.
-/
import Rubric.Yaml.Node
import Rubric.Json.Basic
import Rubric.Decimal.Binary64

namespace Rubric.Yaml

/-! ## Scalars -/

/-- Whether a text stands for null. -/
def isNull (text : String) : Bool :=
  text == "null" || text == "Null" || text == "NULL" || text == "~"

/-- The truth value that a text denotes. -/
def truth? (text : String) : Option Bool :=
  if text == "true" || text == "True" || text == "TRUE" then some true
  else if text == "false" || text == "False" || text == "FALSE" then some false
  else none

/-- The digit that a character is in a base. -/
def digit? (base : Nat) (c : Char) : Option Nat :=
  let n :=
    if c.isDigit then c.toNat - '0'.toNat
    else if 'a' ≤ c && c ≤ 'z' then c.toNat - 'a'.toNat + 10
    else if 'A' ≤ c && c ≤ 'Z' then c.toNat - 'A'.toNat + 10
    else base
  if n < base then some n else none

/-- The number that digits denote in a base, one digit at least. -/
def digits? (base : Nat) (cs : List Char) : Option Nat :=
  if cs.isEmpty then none
  else cs.foldl (fun acc c => acc.bind fun n => (digit? base c).map fun d => n * base + d) (some 0)

/-- Whether digits start with a zero that no number would have. -/
def hasLeadingZero (cs : List Char) : Bool :=
  let unsigned := match cs with
    | '-' :: rest => rest
    | '+' :: rest => rest
    | cs => cs
  match unsigned with
  | '0' :: d :: rest => (d :: rest).all Char.isDigit
  | _ => false

/-- The whole number that an unsigned text denotes. -/
def natural? (cs : List Char) : Option Nat :=
  match cs with
  | '0' :: 'x' :: rest => digits? 16 rest
  | '0' :: 'o' :: rest => digits? 8 rest
  | '0' :: 'b' :: rest => digits? 2 rest
  | cs => digits? 10 cs

/-- The whole number that a text denotes: whether it is negative, and its size. -/
def whole? (cs : List Char) : Option (Bool × Nat) :=
  if hasLeadingZero cs then none
  else
    match cs with
    | '+' :: rest => (natural? rest).map (false, ·)
    | '-' :: rest => (natural? rest).map (true, ·)
    | cs => (natural? cs).map (false, ·)

/-- What a whole number is as a value. Numbers of more than 64 and up to 128 bits
    are refused, and larger ones are no whole numbers. -/
def wholeValue (negative : Bool) (n : Nat) : Option (Except Unit Json) :=
  if negative && n != 0 then
    if n ≤ Number.maxNegative then some (.ok (.number (.negative n)))
    else if n ≤ Nat.pow 2 127 then some (.error ())
    else none
  else if n ≤ Number.maxNatural then some (.ok (.number (.natural n)))
  else if n < Nat.pow 2 128 then some (.error ())
  else none

/-- The binary fraction that a decimal text denotes, if it is finite. -/
def decimal? (cs : List Char) : Option Decimal.Binary64 :=
  let (negative, cs) := match cs with
    | '-' :: rest => (true, rest)
    | cs => (false, cs)
  let whole := cs.takeWhile Char.isDigit
  let (fraction, rest) := match cs.dropWhile Char.isDigit with
    | '.' :: rest => (rest.takeWhile Char.isDigit, rest.dropWhile Char.isDigit)
    | rest => ([], rest)
  if whole.isEmpty && fraction.isEmpty then none
  else
    let exponent : Option Int := match rest with
      | [] => some 0
      | e :: rest =>
        if e != 'e' && e != 'E' then none
        else
          match rest with
          | '-' :: ds => (digits? 10 ds).map fun n => -(n : Int)
          | '+' :: ds => (digits? 10 ds).map fun n => (n : Int)
          | ds => (digits? 10 ds).map fun n => (n : Int)
    match exponent, digits? 10 (whole ++ fraction) with
    | some e, some n => Decimal.Binary64.ofDecimal? negative n (e - fraction.length)
    | _, _ => none

/-- What a text denotes that looks like a binary fraction. Infinities and what is
    no number have no value and become null. -/
def fraction? (text : String) : Option Json :=
  let unsigned := match text.toList with
    | '+' :: '+' :: _ => none
    | '+' :: '-' :: _ => none
    | '+' :: rest => some rest
    | cs => some cs
  match unsigned with
  | none => none
  | some cs =>
    if [".inf", ".Inf", ".INF"].contains (String.ofList cs)
        || ["-.inf", "-.Inf", "-.INF", ".nan", ".NaN", ".NAN"].contains text then some .null
    else (decimal? cs).map fun x => .number (.real x)

/-- The value of a plain scalar. -/
def plainValue (text : String) : Except Unit Json :=
  if text.isEmpty || isNull text then .ok .null
  else
    match truth? text with
    | some b => .ok (.bool b)
    | none =>
      match (whole? text.toList).bind fun (negative, n) => wholeValue negative n with
      | some value => value
      | none =>
        if hasLeadingZero text.toList then .ok (.string text)
        else .ok ((fraction? text).getD (.string text))

/-- The beginning of the tags that the language itself defines. -/
def coreTag (name : String) : String := "tag:yaml.org,2002:" ++ name

/-- The value of a scalar with a tag. -/
def taggedValue (tag text : String) : Except Unit Json :=
  if tag == coreTag "bool" then
    match truth? text with
    | some b => .ok (.bool b)
    | none => .error ()
  else if tag == coreTag "int" then
    match (whole? text.toList).bind fun (negative, n) => wholeValue negative n with
    | some value => value
    | none => .error ()
  else if tag == coreTag "float" then
    match fraction? text with
    | some value => .ok value
    | none => .error ()
  else if tag == coreTag "null" then
    if isNull text then .ok .null else .error ()
  else .ok (.string text)

/-- Whether a tag is one that the document makes up; such values are refused. -/
def isLocalTag (tag : Option String) : Bool :=
  tag.any fun t => t.toList.head? == some '!'

/-- The value of a scalar. -/
def scalarValue (text : String) (plain : Bool) (tag : Option String) : Except Unit Json :=
  if isLocalTag tag then .error ()
  else
    match tag with
    | some tag => taggedValue tag text
    | none => if plain then plainValue text else .ok (.string text)

/-! ## Nodes -/

/-- How deep sequences and mappings may be nested, once aliases are replaced. -/
def nestingLimit : Nat := 128

/-- How many aliases may be replaced in a document of a given size. -/
def aliasLimit (size : Nat) : Nat := 100 * size

/-- Replaces an alias, at the cost of one of those that are allowed. -/
def followAlias (anchors : List (Nat × Node)) (node : Node) (room : Nat) :
    Except Unit (Node × Nat) :=
  match node with
  | .alias n =>
    match anchors.find? fun a => a.1 == n with
    | some (_, target) => if room = 0 then .error () else .ok (target, room - 1)
    | none => .error ()
  | node => .ok (node, room)

/-- The text of a key. -/
def keyText (anchors : List (Nat × Node)) (node : Node) (room : Nat) :
    Except Unit (String × Nat) :=
  match followAlias anchors node room with
  | .ok (.scalar text _ _, room) => .ok (text, room)
  | _ => .error ()

/-- The values of items, one after another. -/
def itemValues (read : Node → Nat → Except Unit (Json × Nat)) :
    List Node → Nat → Except Unit (List Json × Nat)
  | [], room => .ok ([], room)
  | x :: xs, room =>
    match read x room with
    | .error e => .error e
    | .ok (v, room) =>
      match itemValues read xs room with
      | .error e => .error e
      | .ok (vs, room) => .ok (v :: vs, room)

/-- The members that entries amount to, after those that are there. -/
def entryValues (anchors : List (Nat × Node)) (read : Node → Nat → Except Unit (Json × Nat))
    (members : List (String × Json)) :
    List (Node × Node) → Nat → Except Unit (List (String × Json) × Nat)
  | [], room => .ok (members, room)
  | (k, x) :: rest, room =>
    match keyText anchors k room with
    | .error e => .error e
    | .ok (name, room) =>
      match read x room with
      | .error e => .error e
      | .ok (v, room) => entryValues anchors read (Fields.insert name v members) rest room

/-- The value of a node below which at most `depth` levels are, when at most `room`
    aliases may be replaced. -/
def nodeValue (anchors : List (Nat × Node)) :
    (depth : Nat) → Node → (room : Nat) → Except Unit (Json × Nat)
  | depth, node, room =>
    match followAlias anchors node room with
    | .error e => .error e
    | .ok (.scalar text plain tag, room) =>
      match scalarValue text plain tag with
      | .ok v => .ok (v, room)
      | .error e => .error e
    | .ok (.sequence tag items, room) =>
      match depth with
      | 0 => .error ()
      | depth + 1 =>
        if isLocalTag tag then .error ()
        else
          match itemValues (nodeValue anchors depth) items room with
          | .ok (vs, room) => .ok (.array vs, room)
          | .error e => .error e
    | .ok (.mapping tag entries, room) =>
      match depth with
      | 0 => .error ()
      | depth + 1 =>
        if isLocalTag tag then .error ()
        else
          match entryValues anchors (nodeValue anchors depth) [] entries room with
          | .ok (members, room) => .ok (.object members, room)
          | .error e => .error e
    | .ok (.alias _, _) => .error ()

/-- The value of a YAML text, if it is one. -/
def parse? (text : String) : Option Json :=
  match (Token.ofText? text).bind Tree.ofTokens? with
  | none => none
  | some tree =>
    match nodeValue tree.anchors nestingLimit tree.root (aliasLimit tree.root.weight) with
    | .ok (v, _) => some v
    | .error _ => none

end Rubric.Yaml
