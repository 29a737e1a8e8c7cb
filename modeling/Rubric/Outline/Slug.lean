/-
  Rubric.Outline.Slug

  Names of sections made from their headings.

  A slug keeps letters and digits in lower case and joins what white space,
  hyphens and underscores separate by single hyphens. A slug that was made
  before in the same document gets a number after it.
-/
import Rubric.Text.Blank
import Rubric.Unicode.Letter

namespace Rubric.Slug

/-- Adds one character of a heading to a slug, which is kept reversed. -/
def push (slug : List Char) (c : Char) : List Char :=
  if Unicode.isAlphanumeric c then (Unicode.lower c).reverse ++ slug
  else if (Text.isBlank c || c == '-' || c == '_') && slug.head? != some '-' then '-' :: slug
  else slug

/-- The slug of a heading text, before it is made unique. -/
def ofHeading (text : String) : String :=
  let slug := text.toList.foldl push []
  let trimmed := (slug.dropWhile (· == '-')).reverse.dropWhile (· == '-')
  if trimmed.isEmpty then "section" else String.ofList trimmed

/-- The id for the next heading, where `seen` are the slugs of the headings so
    far: the slug itself the first time, with a running number afterwards. -/
def next (seen : List String) (text : String) : String :=
  let slug := ofHeading text
  match seen.count slug with
  | 0 => slug
  | n + 1 => s!"{slug}-{n + 1}"

end Rubric.Slug
