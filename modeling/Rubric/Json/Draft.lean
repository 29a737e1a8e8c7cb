/-
  Rubric.Json.Draft

  JSON text as far as it can be read.

  Text is taken as a stream: what stands before a mistake is still there to be
  looked at. A draft is the tree of a text up to its first mistake, and says at
  the place of the mistake what it was. Members of an object are all kept, also
  those whose names repeat.
  `Draft.toJson` reads a draft as a plain value.
-/
import Rubric.Json.Basic
import Rubric.Unicode.Ranges

namespace Rubric.Json

/-- Why a text is not JSON: it breaks a rule, or it ends too early. -/
inductive Flaw where
  | malformed
  | endOfInput
deriving DecidableEq, Repr, Inhabited

/-- A number as written: its sign, the digits before and after the point, and
    the exponent with its sign. -/
structure Numeral where
  negative : Bool
  whole : List Char
  fraction : Option (List Char)
  exponent : Option (Bool × List Char)
deriving DecidableEq, Repr, Inhabited

/-- JSON text up to its first mistake. -/
inductive Draft where
  | null
  | bool (value : Bool)
  /-- A number; there is no value if it is too large. -/
  | number (value : Option Number)
  /-- A string; there is no value if an escape names half of a surrogate pair. -/
  | string (value : Option String)
  | array (items : List Draft) (flaw : Option Flaw)
  | object (fields : List (String × Draft)) (flaw : Option Flaw)
  | broken (flaw : Flaw)
deriving Repr, Inhabited

/-! ## Pieces of text -/

/-- The characters between values that mean nothing. -/
def isSpace (c : Char) : Bool :=
  c == ' ' || c == '\n' || c == '\t' || c == '\r'

/-- The text after leading space. -/
def skipSpace (cs : List Char) : List Char :=
  cs.dropWhile isSpace

/-- What is wrong with a text that should go on and does not go on as it should. -/
def flawAt : List Char → Flaw
  | [] => .endOfInput
  | _ :: _ => .malformed

/-- Reads four hexadecimal digits. -/
def hexFour : List Char → Except Flaw (Nat × List Char)
  | a :: b :: c :: d :: rest =>
    match Unicode.hexDigit? a, Unicode.hexDigit? b, Unicode.hexDigit? c, Unicode.hexDigit? d with
    | some a, some b, some c, some d => .ok (4096 * a + 256 * b + 16 * c + d, rest)
    | _, _, _, _ => .error .malformed
  | _ => .error .endOfInput

/-- The character of a one-letter escape. -/
def shortEscape? (c : Char) : Option Char :=
  if c == '"' || c == '\\' || c == '/' then some c
  else if c == 'b' then some '\x08'
  else if c == 'f' then some '\x0c'
  else if c == 'n' then some '\n'
  else if c == 'r' then some '\r'
  else if c == 't' then some '\t'
  else none

/-- Reads the rest of a string after its opening quotation mark. `acc` holds the
    characters so far, reversed; `whole` is false once half of a surrogate pair
    was met. -/
def readString : (fuel : Nat) → (acc : List Char) → (whole : Bool) → List Char →
    Except Flaw (Option String × List Char)
  | 0, _, _, _ => .error .endOfInput
  | _ + 1, _, whole, [] => .error (if whole then .endOfInput else .malformed)
  | fuel + 1, acc, whole, c :: cs =>
    if c == '"' then .ok (if whole then some (String.ofList acc.reverse) else none, cs)
    else if c == '\\' then
      match cs with
      | [] => .error .endOfInput
      | 'u' :: rest =>
        match hexFour rest with
        | .error flaw => .error flaw
        | .ok (n, rest) =>
          if 0xdc00 ≤ n && n ≤ 0xdfff then readString fuel acc false rest
          else if 0xd800 ≤ n && n ≤ 0xdbff then
            match rest with
            | [] => .error .endOfInput
            | '\\' :: 'u' :: low =>
              match hexFour low with
              | .error flaw => .error flaw
              | .ok (m, low) =>
                if 0xdc00 ≤ m && m ≤ 0xdfff then
                  let code := 0x10000 + 1024 * (n - 0xd800) + (m - 0xdc00)
                  readString fuel (Char.ofNat code :: acc) whole low
                else readString fuel acc false rest
            | _ => readString fuel acc false rest
          else readString fuel (Char.ofNat n :: acc) whole rest
      | e :: rest =>
        match shortEscape? e with
        | some c => readString fuel (c :: acc) whole rest
        | none => .error .malformed
    else if c.toNat < 0x20 then .error .malformed
    else readString fuel (c :: acc) whole cs

/-- Reads digits, at least one. -/
def readDigits (cs : List Char) : Except Flaw (List Char × List Char) :=
  match cs.takeWhile Char.isDigit with
  | [] => .error (flawAt cs)
  | ds => .ok (ds, cs.dropWhile Char.isDigit)

/-- Reads the exponent of a number, if there is one. -/
def readExponent (cs : List Char) : Except Flaw (Option (Bool × List Char) × List Char) :=
  match cs with
  | e :: rest =>
    if e == 'e' || e == 'E' then
      let (negative, rest) := match rest with
        | '-' :: rest => (true, rest)
        | '+' :: rest => (false, rest)
        | _ => (false, rest)
      match readDigits rest with
      | .error flaw => .error flaw
      | .ok (ds, rest) => .ok (some (negative, ds), rest)
    else .ok (none, cs)
  | [] => .ok (none, [])

/-- Reads a number. A zero is not followed by another digit of the whole part. -/
def readNumeral (cs : List Char) : Except Flaw (Numeral × List Char) :=
  let (negative, cs) := match cs with
    | '-' :: rest => (true, rest)
    | _ => (false, cs)
  match readDigits cs with
  | .error flaw => .error flaw
  | .ok (whole, rest) =>
    if whole.head? == some '0' && whole.length > 1 then .error .malformed
    else
      match rest with
      | '.' :: rest =>
        match readDigits rest with
        | .error flaw => .error flaw
        | .ok (fraction, rest) =>
          match readExponent rest with
          | .error flaw => .error flaw
          | .ok (exponent, rest) => .ok (⟨negative, whole, some fraction, exponent⟩, rest)
      | _ =>
        match readExponent rest with
        | .error flaw => .error flaw
        | .ok (exponent, rest) => .ok (⟨negative, whole, none, exponent⟩, rest)

/-- Reads a fixed word, and says how it goes wrong. -/
def readWord (word : List Char) (value : Draft) (cs : List Char) : Draft × Option (List Char) :=
  match word, cs with
  | [], rest => (value, some rest)
  | _ :: _, [] => (.broken .endOfInput, none)
  | w :: ws, c :: cs => if w == c then readWord ws value cs else (.broken .malformed, none)

/-! ## Numbers -/

/-- Digits as a number, and how many of them fit into 64 bits from the left. -/
def significand (acc : Nat) : List Char → Nat × Nat
  | [] => (acc, 0)
  | d :: ds =>
    let next := 10 * acc + (d.toNat - '0'.toNat)
    if next ≤ Number.maxNatural then significand next ds else (acc, ds.length + 1)

/-- A significand times a power of ten, in binary floating-point steps: the
    significand is rounded, the power is rounded, and so is the result. Powers
    below the least one are taken in two steps. -/
def scaledReal? (negative : Bool) (digits : Nat) (exponent : Int) : Option Decimal.Binary64 :=
  let step (x : Decimal.Binary64) (e : Int) : Option Decimal.Binary64 :=
    match Decimal.Binary64.ofDecimal? false 1 (e.natAbs : Int) with
    | none => none
    | some p =>
      let (xn, xd) := x.ratio
      let (pn, pd) := p.ratio
      if 0 ≤ e then Decimal.Binary64.ofRatio? negative (xn * pn) (xd * pd)
      else Decimal.Binary64.ofRatio? negative (xn * pd) (xd * pn)
  let zero : Decimal.Binary64 := ⟨negative, 0, Decimal.Binary64.minExponent⟩
  match Decimal.Binary64.ofRatio? negative digits 1 with
  | none => none
  | some x =>
    if x.significand == 0 then some zero
    else if 308 < exponent then none
    else if -308 ≤ exponent then step x exponent
    else
      match step x (-308) with
      | none => none
      | some y =>
        if y.significand == 0 then some zero
        else if exponent < -616 then some zero
        else step y (exponent + 308)

/-- A numeral with a point or an exponent as a number. -/
def Numeral.real? (n : Numeral) : Option Number :=
  let (m, dropped) := significand 0 n.whole
  let fraction := n.fraction.getD []
  let (m, cut) := significand m fraction
  let places := fraction.length - cut
  let written : Int := match n.exponent with
    | none => 0
    | some (negative, ds) =>
      let size : Int := (ds.foldl (fun a d => 10 * a + (d.toNat - '0'.toNat)) 0 : Nat)
      if negative then -size else size
  (scaledReal? n.negative m (written + (dropped : Int) - (places : Int))).map .real

/-- The number a numeral stands for, unless it is too large. -/
def Numeral.toNumber? (n : Numeral) : Option Number :=
  match n.fraction, n.exponent with
  | none, none =>
    let value := n.whole.foldl (fun a d => 10 * a + (d.toNat - '0'.toNat)) 0
    if n.negative then
      if value == 0 || value > Number.maxNegative then n.real? else some (.negative value)
    else if value > Number.maxNatural then n.real?
    else some (.natural value)
  | _, _ => n.real?

/-! ## Values -/

mutual

/-- Reads a value. The second part is the text after it, if the value is complete. -/
def readValue : (fuel : Nat) → List Char → Draft × Option (List Char)
  | 0, _ => (.broken .endOfInput, none)
  | fuel + 1, cs =>
    match skipSpace cs with
    | [] => (.broken .endOfInput, none)
    | 'n' :: rest => readWord "ull".toList .null rest
    | 't' :: rest => readWord "rue".toList (.bool true) rest
    | 'f' :: rest => readWord "alse".toList (.bool false) rest
    | '"' :: rest =>
      match readString (rest.length + 1) [] true rest with
      | .ok (s, rest) => (.string s, some rest)
      | .error flaw => (.broken flaw, none)
    | '[' :: rest =>
      match skipSpace rest with
      | ']' :: rest => (.array [] none, some rest)
      | [] => (.array [] (some .endOfInput), none)
      | rest =>
        let (items, flaw, rest) := readItems fuel rest
        (.array items flaw, rest)
    | '\x7b' :: rest =>
      match skipSpace rest with
      | '\x7d' :: rest => (.object [] none, some rest)
      | rest =>
        let (fields, flaw, rest) := readFields fuel rest
        (.object fields flaw, rest)
    | c :: rest =>
      if c == '-' || c.isDigit then
        match readNumeral (c :: rest) with
        | .ok (n, rest) => (.number n.toNumber?, some rest)
        | .error flaw => (.broken flaw, none)
      else (.broken .malformed, none)

/-- Reads the items of an array and its closing bracket. -/
def readItems : (fuel : Nat) → List Char → List Draft × Option Flaw × Option (List Char)
  | 0, _ => ([], some .endOfInput, none)
  | fuel + 1, cs =>
    match readValue fuel cs with
    | (x, none) => ([x], some .malformed, none)
    | (x, some rest) =>
      match skipSpace rest with
      | ']' :: rest => ([x], none, some rest)
      | ',' :: rest =>
        match skipSpace rest with
        | ']' :: _ => ([x], some .malformed, none)
        | rest =>
          let (xs, flaw, rest) := readItems fuel rest
          (x :: xs, flaw, rest)
      | rest => ([x], some (flawAt rest), none)

/-- Reads the members of an object and its closing brace. -/
def readFields : (fuel : Nat) → List Char → List (String × Draft) × Option Flaw × Option (List Char)
  | 0, _ => ([], some .endOfInput, none)
  | fuel + 1, cs =>
    match skipSpace cs with
    | '"' :: rest =>
      match readString (rest.length + 1) [] true rest with
      | .error flaw => ([], some flaw, none)
      | .ok (none, _) => ([], some .malformed, none)
      | .ok (some name, rest) =>
        match skipSpace rest with
        | ':' :: rest =>
          match readValue fuel rest with
          | (x, none) => ([(name, x)], some .malformed, none)
          | (x, some rest) =>
            match skipSpace rest with
            | '\x7d' :: rest => ([(name, x)], none, some rest)
            | ',' :: rest =>
              match skipSpace rest with
              | '\x7d' :: _ => ([(name, x)], some .malformed, none)
              | rest =>
                let (xs, flaw, rest) := readFields fuel rest
                ((name, x) :: xs, flaw, rest)
            | rest => ([(name, x)], some (flawAt rest), none)
        | rest => ([(name, .broken (flawAt rest))], some .malformed, none)
    | rest => ([], some (flawAt rest), none)

end

/-- Reads a whole text: its draft, and what is wrong with the text after the
    value. -/
def Draft.ofText (text : String) : Draft × Option Flaw :=
  let cs := text.toList
  match readValue (cs.length + 2) cs with
  | (draft, none) => (draft, none)
  | (draft, some rest) =>
    (draft, match skipSpace rest with | [] => none | _ => some .malformed)

/-! ## Plain values -/

/-- How many arrays and objects a text may nest in each other, plus one. -/
def nestingLimit : Nat := 128

mutual

/-- A draft as a plain value; `room` bounds the nesting, and of members with the
    same name the last one counts, at the place of the first. -/
def Draft.toJson (room : Nat) : Draft → Except Flaw Json
  | .null => .ok .null
  | .bool b => .ok (.bool b)
  | .number (some n) => .ok (.number n)
  | .number none => .error .malformed
  | .string (some s) => .ok (.string s)
  | .string none => .error .malformed
  | .array items flaw =>
    if room ≤ 1 then .error .malformed
    else
      match Draft.toJsonItems (room - 1) items with
      | .error e => .error e
      | .ok items =>
        match flaw with
        | some e => .error e
        | none => .ok (.array items)
  | .object fields flaw =>
    if room ≤ 1 then .error .malformed
    else
      match Draft.toJsonFields (room - 1) [] fields with
      | .error e => .error e
      | .ok fields =>
        match flaw with
        | some e => .error e
        | none => .ok (.object fields)
  | .broken flaw => .error flaw

/-- The items of an array as plain values. -/
def Draft.toJsonItems (room : Nat) : List Draft → Except Flaw (List Json)
  | [] => .ok []
  | x :: xs =>
    match x.toJson room with
    | .error e => .error e
    | .ok x =>
      match Draft.toJsonItems room xs with
      | .error e => .error e
      | .ok xs => .ok (x :: xs)

/-- The members of an object as plain values, added to those read before. -/
def Draft.toJsonFields (room : Nat) (seen : List (String × Json)) :
    List (String × Draft) → Except Flaw (List (String × Json))
  | [] => .ok seen
  | (name, x) :: xs =>
    match x.toJson room with
    | .error e => .error e
    | .ok x => Draft.toJsonFields room (Fields.insert name x seen) xs

end

/-- Reads a text as a plain value. -/
def parse (text : String) : Except Flaw Json :=
  let (draft, trailing) := Draft.ofText text
  match draft.toJson nestingLimit with
  | .error e => .error e
  | .ok value =>
    match trailing with
    | some e => .error e
    | none => .ok value

mutual

/-- A plain value as a draft without mistakes. -/
def Draft.ofJson : Json → Draft
  | .null => .null
  | .bool b => .bool b
  | .number n => .number (some n)
  | .string s => .string (some s)
  | .array items => .array (Draft.ofJsonItems items) none
  | .object fields => .object (Draft.ofJsonFields fields) none

/-- Items as drafts. -/
def Draft.ofJsonItems : List Json → List Draft
  | [] => []
  | x :: xs => Draft.ofJson x :: Draft.ofJsonItems xs

/-- Members as drafts. -/
def Draft.ofJsonFields : List (String × Json) → List (String × Draft)
  | [] => []
  | (name, x) :: xs => (name, Draft.ofJson x) :: Draft.ofJsonFields xs

end

end Rubric.Json
