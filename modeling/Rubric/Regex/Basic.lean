/-
  Rubric.Regex.Basic

  Patterns and what they match.

  A pattern is looked for anywhere in a text, and all that is asked is whether it
  is there. So an expression is run on sets of places: given the places where a
  match may start, `Expr.reach` computes the places where it may end. A text of
  `n` characters has `n + 1` places, and a set of places is a list of `n + 1`
  truth values.
-/
import Rubric.Regex.CharSet
import Rubric.Unicode.Category
import Rubric.Unicode.Property

namespace Rubric.Regex

/-- Conditions on a place between two characters. -/
inductive Look where
  | textStart
  | textEnd
  /-- The start of a line; with `crlf`, carriage returns end lines as well. -/
  | lineStart (crlf : Bool)
  | lineEnd (crlf : Bool)
  /-- A place between a word character and another one. -/
  | wordBoundary (unicode : Bool)
  | notWordBoundary (unicode : Bool)
  | wordStart (unicode : Bool)
  | wordEnd (unicode : Bool)
  /-- A place not after a word character. -/
  | wordStartHalf (unicode : Bool)
  /-- A place not before a word character. -/
  | wordEndHalf (unicode : Bool)
deriving DecidableEq, Repr, Inhabited

/-- A pattern. -/
inductive Expr where
  | empty
  | set (chars : CharSet)
  | look (look : Look)
  | seq (first second : Expr)
  | alt (left right : Expr)
  | repetition (body : Expr) (least : Nat) (most : Option Nat)
deriving Repr, Inhabited

/-! ## Places -/

/-- A place in a text: the characters on its two sides. -/
structure Place where
  before : Option Char
  after : Option Char
deriving DecidableEq, Repr, Inhabited

/-- The places of a text after the character `before`. -/
def placesFrom (before : Option Char) : List Char → List Place
  | [] => [⟨before, none⟩]
  | c :: cs => ⟨before, some c⟩ :: placesFrom (some c) cs

/-- The places of a text. -/
def places (text : List Char) : List Place :=
  placesFrom none text

/-- Digits in words of ASCII, and the underscore. -/
def wordSetAscii : CharSet := [(0x30, 0x39), (0x41, 0x5a), (0x5f, 0x5f), (0x61, 0x7a)]

/-- Letters, marks, decimal digits, connecting punctuation and joiners. -/
def wordSet : CharSet :=
  CharSet.tidy ((Unicode.property? "alphabetic").getD [] ++ (Unicode.category? "m").getD []
    ++ (Unicode.category? "nd").getD [] ++ (Unicode.category? "pc").getD []
    ++ (Unicode.property? "joincontrol").getD [])

/-- `wordSet` for looking characters up. -/
def wordRanges : Unicode.Ranges := wordSet.toArray

/-- Whether a character is part of a word. -/
def isWordChar (unicode : Bool) (c : Char) : Bool :=
  if c.toNat < 0x80 then CharSet.contains wordSetAscii c.toNat
  else unicode && wordRanges.contains c.toNat

/-- Whether there is a word character. -/
def isWord (unicode : Bool) : Option Char → Bool
  | some c => isWordChar unicode c
  | none => false

/-- Whether a condition holds at a place. -/
def Look.holds (look : Look) (place : Place) : Bool :=
  match look with
  | .textStart => place.before.isNone
  | .textEnd => place.after.isNone
  | .lineStart false => place.before.isNone || place.before == some '\n'
  | .lineStart true =>
    place.before.isNone || place.before == some '\n'
      || (place.before == some '\r' && place.after != some '\n')
  | .lineEnd false => place.after.isNone || place.after == some '\n'
  | .lineEnd true =>
    place.after.isNone || place.after == some '\r'
      || (place.after == some '\n' && place.before != some '\r')
  | .wordBoundary u => isWord u place.before != isWord u place.after
  | .notWordBoundary u => isWord u place.before == isWord u place.after
  | .wordStart u => !isWord u place.before && isWord u place.after
  | .wordEnd u => isWord u place.before && !isWord u place.after
  | .wordStartHalf u => !isWord u place.before
  | .wordEndHalf u => !isWord u place.after

/-! ## Matching -/

/-- The places in either set. -/
def orElse (a b : List Bool) : List Bool :=
  List.zipWith (· || ·) a b

/-- The places one character further on, where that character is in a set. -/
def step (chars : CharSet) (all : List Place) (from? : List Bool) : List Bool :=
  false :: (List.zipWith (fun (place : Place) (start : Bool) =>
    start && (match place.after with
      | some c => CharSet.contains chars c.toNat
      | none => false)) all from?).dropLast

/-- Applies a step `n` times. -/
def iterate (f : List Bool → List Bool) : Nat → List Bool → List Bool
  | 0, s => s
  | n + 1, s => iterate f n (f s)

/-- The places reached by up to `n` steps. -/
def upTo (f : List Bool → List Bool) : Nat → List Bool → List Bool
  | 0, s => s
  | n + 1, s =>
    let next := orElse s (f s)
    if next == s then s else upTo f n next

/-- The places where a match can end that starts at one of the given places. -/
def Expr.reach (all : List Place) : Expr → List Bool → List Bool
  | .empty, s => s
  | .set chars, s => step chars all s
  | .look l, s => List.zipWith (fun place start => start && l.holds place) all s
  | .seq a b, s => b.reach all (a.reach all s)
  | .alt a b, s => orElse (a.reach all s) (b.reach all s)
  | .repetition body least most, s =>
    let entered := iterate (body.reach all) least s
    match most with
    | none => upTo (body.reach all) (all.length + 1) entered
    | some n => upTo (body.reach all) (n - least) entered

/-- Whether a pattern occurs in a text. -/
def Expr.isMatch (expr : Expr) (text : List Char) : Bool :=
  let all := places text
  (expr.reach all (all.map fun _ => true)).any id

end Rubric.Regex
