/-
  Rubric.Text.Quoted

  Quoting a text for a message.

  Quotation marks and reverse solidi are escaped, line ends and tabs have their
  letters, and every other character that shows nothing of its own is written by
  its code point, as in `\u{301}`.
-/
import Rubric.Unicode.Visible

namespace Rubric.Text

/-- How a character is written between quotation marks. -/
def quotedChar (c : Char) : List Char :=
  if c == '"' then ['\\', '"']
  else if c == '\\' then ['\\', '\\']
  else if c == '\n' then ['\\', 'n']
  else if c == '\r' then ['\\', 'r']
  else if c == '\t' then ['\\', 't']
  else if c == '\x00' then ['\\', '0']
  else if Unicode.isVisible c then [c]
  else ['\\', 'u', '\x7b'] ++ Nat.toDigits 16 c.toNat ++ ['\x7d']

/-- A text in quotation marks. -/
def quoted (s : String) : String :=
  String.ofList ('"' :: (s.toList.flatMap quotedChar ++ ['"']))

end Rubric.Text
