/-
  Rubric.Regex.Pattern

  Patterns, and what compiles them.

  Which texts are patterns, and in which texts a pattern occurs, is up to a
  compiler. Whoever reads patterns is given one.
-/

namespace Rubric

/-- A pattern with the text it was compiled from. -/
structure Pattern where
  source : String
  /-- Whether the pattern occurs in a text. -/
  isMatch : String → Bool
deriving Inhabited

instance : Repr Pattern :=
  ⟨fun pattern => reprPrec pattern.source⟩

/-- A compiler makes patterns of texts; of a text that is no pattern it makes nothing. -/
abbrev Regex.Compiler := (text : String) → Option Pattern

end Rubric
