/-
  Rubric.Text.Blank

  White space in running text, and trimming it.

  A character is blank when it has the Unicode property `White_Space`. Every
  position the library reports is the position of a trimmed text, so the three
  trimming functions are stated on character lists, where each is a
  `dropWhile`.
-/

namespace Rubric.Text

/-- The characters with the Unicode property `White_Space`. -/
def isBlank (c : Char) : Bool :=
  let n := c.toNat
  (9 ≤ n && n ≤ 13) || n == 0x20 || n == 0x85 || n == 0xa0 || n == 0x1680
    || (0x2000 ≤ n && n ≤ 0x200a) || n == 0x2028 || n == 0x2029 || n == 0x202f
    || n == 0x205f || n == 0x3000

/-- A space or a tab: the white space that counts inside a line of a format. -/
def isGap (c : Char) : Bool :=
  c == ' ' || c == '\t'

/-- The text without its leading blank characters. -/
def trimStart (cs : List Char) : List Char :=
  cs.dropWhile isBlank

/-- The text without its trailing characters that satisfy `p`. -/
def dropWhileEnd (p : Char → Bool) (cs : List Char) : List Char :=
  (cs.reverse.dropWhile p).reverse

/-- The text without its trailing blank characters. -/
def trimEnd (cs : List Char) : List Char :=
  dropWhileEnd isBlank cs

/-- The text without blank characters on either side. -/
def trim (cs : List Char) : List Char :=
  trimEnd (trimStart cs)

/-- `trim` on strings. -/
def trimString (s : String) : String :=
  String.ofList (trim s.toList)

/-! ## Empty texts -/

theorem trimStart_nil : trimStart [] = [] := rfl

theorem trimEnd_nil : trimEnd [] = [] := rfl

theorem trim_nil : trim [] = [] := rfl

end Rubric.Text
