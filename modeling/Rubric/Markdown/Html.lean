/-
  Rubric.Markdown.Html

  How blocks of raw HTML begin and end.

  A block begins at an opening angle bracket. What follows decides its kind, and
  the kind decides where it ends: at a closing mark, or at the first blank line.
-/
import Rubric.Text.Blank

namespace Rubric.Markdown

/-- The kinds of raw HTML blocks. -/
inductive HtmlKind where
  /-- From a tag whose content is not markup, to its end tag. -/
  | verbatim
  | comment
  | instruction
  | declaration
  | cdata
  /-- From a tag that is a block of its own, to a blank line. -/
  | block
  /-- From any complete tag alone on its line, to a blank line. -/
  | lone
deriving DecidableEq, Repr, Inhabited

namespace Html

/-- Elements whose content is not markup. -/
def verbatimNames : List String := ["pre", "script", "style"]

/-- Elements that stand as blocks. -/
def blockNames : List String :=
  ["address", "article", "aside", "base", "basefont", "blockquote", "body", "caption", "center",
   "col", "colgroup", "dd", "details", "dialog", "dir", "div", "dl", "dt", "fieldset",
   "figcaption", "figure", "footer", "form", "frame", "frameset", "head", "header", "hr", "html",
   "iframe", "legend", "li", "link", "main", "menu", "menuitem", "nav", "noframes", "ol",
   "optgroup", "option", "p", "param", "section", "source", "summary", "table", "tbody", "td",
   "tfoot", "th", "thead", "title", "tr", "track", "ul"]

/-- The text without a given beginning, if it begins so. -/
def after? (beginning : String) (cs : List Char) : Option (List Char) :=
  if beginning.toList.isPrefixOf cs then some (cs.drop beginning.length) else none

/-- The element name at the beginning of a text, in lower case, and the rest. -/
def elementName (cs : List Char) : String × List Char :=
  (String.ofList ((cs.takeWhile Char.isAlpha).map Char.toLower), cs.dropWhile Char.isAlpha)

/-- Whether an element name may end before this rest of a line. -/
def endsName (terminated : Bool) : List Char → Bool
  | [] => terminated
  | c :: _ => Text.isGap c || c == '>'

/-! ## Complete tags -/

/-- The rest after an attribute value, if there is one. -/
def attributeValue? (cs : List Char) : Option (List Char) :=
  match cs with
  | '"' :: rest =>
    match rest.dropWhile (· != '"') with
    | _ :: rest => some rest
    | [] => none
  | '\'' :: rest =>
    match rest.dropWhile (· != '\'') with
    | _ :: rest => some rest
    | [] => none
  | cs =>
    let bare := fun c => !(Text.isGap c || c == '"' || c == '\'' || c == '=' || c == '<' || c == '>'
      || c == Char.ofNat 0x60)
    if (cs.takeWhile bare).isEmpty then none else some (cs.dropWhile bare)

/-- The rest after an attribute's equals sign and value, where there is an equals sign. -/
def afterName? (cs : List Char) : Option (List Char) :=
  match cs.dropWhile Text.isGap with
  | '=' :: rest => attributeValue? (rest.dropWhile Text.isGap)
  | _ => some cs

/-- The rest from the end of a tag on, after its attributes. -/
def attributes? : (fuel : Nat) → List Char → Option (List Char)
  | 0, _ => none
  | fuel + 1, cs =>
    match cs.dropWhile Text.isGap with
    | '/' :: rest => some rest
    | '>' :: rest => some ('>' :: rest)
    | c :: rest =>
      if cs.head?.any Text.isGap && (c.isAlpha || c == '_' || c == ':') then
        let inName := fun c => c.isAlphanum || c == '_' || c == '.' || c == ':' || c == '-'
        (afterName? (rest.dropWhile inName)).bind (attributes? fuel)
      else none
    | [] => none

/-- Whether a tag is complete after its name and stands alone on its line. -/
def isLoneTag (closing : Bool) (cs : List Char) : Bool :=
  let cs := cs.dropWhile fun c => c.isAlphanum || c == '-'
  let close? := if closing then some (cs.dropWhile Text.isGap) else attributes? (cs.length + 1) cs
  match close? with
  | some ('>' :: rest) => rest.all Text.isGap
  | _ => false

/-! ## Beginnings -/

/-- The kind of a block that begins with a tag, given what follows the bracket, with
    the rest of the line after the part that decides. A slash right behind a short
    name is passed over. -/
def tagStart? (terminated : Bool) (cs : List Char) : Option (HtmlKind × List Char) :=
  let (closing, cs) := match cs with
    | '/' :: rest => (true, rest)
    | cs => (false, cs)
  let (name, rest) := elementName cs
  let plain := endsName terminated rest
  let (slashed, behind) := match rest with
    | '/' :: more => if name.length ≤ 10 then (true, more) else (false, rest)
    | rest => (false, rest)
  let selfClosed := slashed && behind.head? == some '>'
  if name.isEmpty then none
  else if plain && !closing && name ∈ verbatimNames then some (.verbatim, rest)
  else if (plain || selfClosed) && name ∈ blockNames then some (.block, rest)
  else if !terminated then none
  else if selfClosed then
    if (behind.drop 1).all Text.isGap then some (.lone, rest) else none
  else if isLoneTag closing behind then some (.lone, rest)
  else none

/-- The text without what it has in common with the beginning of another. -/
def dropCommon : List Char → List Char → List Char
  | a :: as, b :: bs => if a == b then dropCommon as bs else b :: bs
  | _, bs => bs

/-- The kind of a block, given what follows the opening bracket, with the rest of the
    line after the part that decides. The incomplete mark of a comment or of character
    data is passed over, and what follows it may still be a tag. -/
def start? (terminated : Bool) (cs : List Char) : Option (HtmlKind × List Char) :=
  match cs with
  | '?' :: rest => some (.instruction, rest)
  | '!' :: '-' :: '-' :: rest => some (.comment, rest)
  | '!' :: '-' :: rest => tagStart? terminated rest
  | '!' :: '[' :: rest =>
    match after? "CDATA[" rest with
    | some rest => some (.cdata, rest)
    | none => tagStart? terminated (dropCommon "CDATA[".toList rest)
  | '!' :: c :: rest =>
    if c.isUpper then some (.declaration, rest) else tagStart? terminated (c :: rest)
  | '!' :: [] => none
  | cs => tagStart? terminated cs

/-! ## Ends -/

/-- Whether some end of the text satisfies `p`. -/
def anyTail (p : List Char → Bool) : List Char → Bool
  | [] => false
  | c :: cs => p (c :: cs) || anyTail p cs

/-- Whether a text begins with the end tag of an element whose content is not markup. -/
def isVerbatimEnd (terminated : Bool) (cs : List Char) : Bool :=
  match after? "</" cs with
  | some rest =>
    let (name, rest) := elementName rest
    name ∈ verbatimNames && endsName terminated rest
  | none => false

/-- Whether a block of this kind ends on a line with this content. -/
def endsOn (kind : HtmlKind) (terminated : Bool) (cs : List Char) : Bool :=
  match kind with
  | .verbatim => anyTail (isVerbatimEnd terminated) cs
  | .comment => anyTail (fun t => (after? "-->" t).isSome) cs
  | .instruction => anyTail (fun t => (after? "?>" t).isSome) cs
  | .declaration => anyTail (fun t => (after? ">" t).isSome) cs
  | .cdata => anyTail (fun t => (after? "]]>" t).isSome) cs
  | .block | .lone => cs.all Text.isGap && terminated

end Html

end Rubric.Markdown
