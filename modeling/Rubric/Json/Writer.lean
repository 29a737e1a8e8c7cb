/-
  Rubric.Json.Writer

  Writing JSON values, on one line or with every item on a line of its own.

  Strings are written as they are, except for the quotation mark, the reverse
  solidus and the control characters below the space.
-/
import Rubric.Json.Basic

namespace Rubric.Json

/-- A digit in hexadecimal. -/
def hexDigit (n : Nat) : Char :=
  if n < 10 then Char.ofNat ('0'.toNat + n) else Char.ofNat ('a'.toNat + (n - 10))

/-- How a character is written inside a string. -/
def escapeChar (c : Char) : List Char :=
  if c == '"' then ['\\', '"']
  else if c == '\\' then ['\\', '\\']
  else if c == '\n' then ['\\', 'n']
  else if c == '\r' then ['\\', 'r']
  else if c == '\t' then ['\\', 't']
  else if c == '\x08' then ['\\', 'b']
  else if c == '\x0c' then ['\\', 'f']
  else if c.toNat < 0x20 then ['\\', 'u', '0', '0', hexDigit (c.toNat / 16), hexDigit (c.toNat % 16)]
  else [c]

/-- A string with its quotation marks. -/
def quote (s : String) : List Char :=
  '"' :: (s.toList.flatMap escapeChar ++ ['"'])

mutual

/-- The characters of a value on one line, without any space. -/
def compactChars : Json → List Char
  | .null => "null".toList
  | .bool true => "true".toList
  | .bool false => "false".toList
  | .number n => n.toText.toList
  | .string s => quote s
  | .array items => '[' :: compactItems items
  | .object fields => '\x7b' :: compactFields fields

/-- The items of an array and its closing bracket. -/
def compactItems : List Json → List Char
  | [] => [']']
  | [x] => compactChars x ++ [']']
  | x :: xs => compactChars x ++ ',' :: compactItems xs

/-- The members of an object and its closing brace. -/
def compactFields : List (String × Json) → List Char
  | [] => ['\x7d']
  | [(name, x)] => quote name ++ ':' :: (compactChars x ++ ['\x7d'])
  | (name, x) :: xs => quote name ++ ':' :: (compactChars x ++ ',' :: compactFields xs)

end

/-- A value on one line. -/
def compact (value : Json) : String :=
  String.ofList (compactChars value)

/-- The start of a line, `level` steps of two spaces in. -/
def newLine (level : Nat) : List Char :=
  '\n' :: List.replicate (2 * level) ' '

mutual

/-- The characters of a value at a nesting level, one item a line. -/
def prettyChars (level : Nat) : Json → List Char
  | .array [] => ['[', ']']
  | .array (x :: xs) =>
    '[' :: (newLine (level + 1) ++ prettyChars (level + 1) x ++ prettyItems level xs)
  | .object [] => ['\x7b', '\x7d']
  | .object ((name, x) :: xs) =>
    '\x7b' :: (newLine (level + 1) ++ quote name ++ ':' :: ' ' :: prettyChars (level + 1) x ++
      prettyFields level xs)
  | .null => compactChars .null
  | .bool b => compactChars (.bool b)
  | .number n => compactChars (.number n)
  | .string s => compactChars (.string s)

/-- The items after the first one, and the closing bracket. -/
def prettyItems (level : Nat) : List Json → List Char
  | [] => newLine level ++ [']']
  | x :: xs => ',' :: (newLine (level + 1) ++ prettyChars (level + 1) x ++ prettyItems level xs)

/-- The members after the first one, and the closing brace. -/
def prettyFields (level : Nat) : List (String × Json) → List Char
  | [] => newLine level ++ ['\x7d']
  | (name, x) :: xs =>
    ',' :: (newLine (level + 1) ++ quote name ++ ':' :: ' ' :: prettyChars (level + 1) x ++
      prettyFields level xs)

end

/-- A value with every item and member on a line of its own. -/
def pretty (value : Json) : String :=
  String.ofList (prettyChars 0 value)

end Rubric.Json
