/-
  Rubric.Proofs.Json.Grammar

  The texts of drafts, and that they are read.

  A draft without mistakes is the tree of a text, and the text is what the tree is made
  of, with any space between the parts. Such a text is read as its draft, up to its end,
  wherever it stands. The proof follows the tree: the items of an array and the members of
  an object are read one after another, each up to the comma or bracket behind it.
-/
import Rubric.Proofs.Json.Numeral
import Mathlib.Data.List.DropRight

namespace Rubric.Json

/-! ## Texts of drafts -/

/-- Characters that are as `p` says, with space around them. -/
def Padded (p : List Char → Prop) (cs : List Char) : Prop :=
  ∃ before body after, IsGap before ∧ IsGap after ∧ p body ∧ cs = before ++ (body ++ after)

mutual

/-- The characters are the text of a draft without mistakes, without space around it. -/
def Draft.IsText : Draft → List Char → Prop
  | .null, cs => cs = "null".toList
  | .bool true, cs => cs = "true".toList
  | .bool false, cs => cs = "false".toList
  | .number n, cs => ∃ numeral : Numeral, numeral.IsText cs ∧ numeral.toNumber? = n
  | .string s, cs => IsString s cs
  | .array items none, cs => ∃ inner, cs = '[' :: inner ∧ Draft.AreItems items inner
  | .object fields none, cs => ∃ inner, cs = '\x7b' :: inner ∧ Draft.AreMembers fields inner
  | .array _ (some _), _ => False
  | .object _ (some _), _ => False
  | .broken _, _ => False

/-- The characters are the items of an array, and its closing bracket. -/
def Draft.AreItems : List Draft → List Char → Prop
  | [], cs => ∃ gap, IsGap gap ∧ cs = gap ++ [']']
  | [x], cs => ∃ item, Padded x.IsText item ∧ cs = item ++ [']']
  | x :: xs, cs =>
    ∃ item others, Padded x.IsText item ∧ Draft.AreItems xs others ∧ cs = item ++ ',' :: others

/-- The characters are the members of an object, and its closing brace. -/
def Draft.AreMembers : List (String × Draft) → List Char → Prop
  | [], cs => ∃ gap, IsGap gap ∧ cs = gap ++ ['\x7d']
  | [(name, x)], cs =>
    ∃ key item, Padded (IsString (some name)) key ∧ Padded x.IsText item ∧
      cs = key ++ ':' :: (item ++ ['\x7d'])
  | (name, x) :: xs, cs =>
    ∃ key item others, Padded (IsString (some name)) key ∧ Padded x.IsText item ∧
      Draft.AreMembers xs others ∧ cs = key ++ ':' :: (item ++ ',' :: others)

end

theorem padded_of_gap {p : List Char → Prop} {before body : List Char} (hbefore : IsGap before)
    (hbody : p body) : Padded p (before ++ body) :=
  ⟨before, body, [], hbefore, isGap_nil, hbody, by rw [List.append_nil]⟩

theorem padded_self {p : List Char → Prop} {body : List Char} (hbody : p body) : Padded p body :=
  padded_of_gap isGap_nil hbody

theorem Padded.mono {p q : List Char → Prop} {cs : List Char} (h : Padded p cs)
    (himp : ∀ body, p body → q body) : Padded q cs := by
  obtain ⟨before, body, after, hbefore, hafter, hbody, rfl⟩ := h
  exact ⟨before, body, after, hbefore, hafter, himp body hbody, rfl⟩

/-- No text begins with space or with a closing bracket. -/
theorem Draft.IsText.head {d : Draft} {cs : List Char} (h : d.IsText cs) :
    ∃ c rest, cs = c :: rest ∧ isSpace c = false ∧ c ≠ ']' := by
  cases d with
  | null => exact ⟨_, _, h, rfl, by decide⟩
  | bool b => cases b <;> exact ⟨_, _, h, rfl, by decide⟩
  | number n =>
    obtain ⟨numeral, htext, -⟩ := h
    obtain ⟨c, rest, rfl, hfirst⟩ := htext.head
    refine ⟨c, rest, rfl, isSpace_eq_false_of_number hfirst, ?_⟩
    rintro rfl
    exact absurd hfirst (by decide)
  | string s =>
    obtain ⟨ps, inner, -, rfl, -⟩ := h
    exact ⟨_, _, rfl, rfl, by decide⟩
  | array items flaw =>
    cases flaw with
    | some flaw => exact h.elim
    | none =>
      obtain ⟨inner, rfl, -⟩ := h
      exact ⟨_, _, rfl, rfl, by decide⟩
  | object fields flaw =>
    cases flaw with
    | some flaw => exact h.elim
    | none =>
      obtain ⟨inner, rfl, -⟩ := h
      exact ⟨_, _, rfl, rfl, by decide⟩
  | broken flaw => exact h.elim

theorem Padded.skipSpace_append {p : List Char → Prop} {item : List Char} (h : Padded p item)
    (rest : List Char) :
    ∃ body after, p body ∧ skipSpace (item ++ rest) = skipSpace (body ++ (after ++ rest)) ∧
      IsGap after := by
  obtain ⟨before, body, after, hbefore, hafter, hbody, rfl⟩ := h
  refine ⟨body, after, hbody, ?_, hafter⟩
  rw [List.append_assoc, List.append_assoc, skipSpace_gap_append hbefore]

/-- What stands at the front of the items of an array. -/
theorem Draft.areItems_head {x : Draft} {xs : List Draft} {cs : List Char}
    (h : Draft.AreItems (x :: xs) cs) (rest : List Char) :
    ∃ c behind, skipSpace (cs ++ rest) = c :: behind ∧ c ≠ ']' := by
  have hitem : ∃ item others, Padded x.IsText item ∧ cs = item ++ others := by
    cases xs with
    | nil =>
      obtain ⟨item, hitem, rfl⟩ := h
      exact ⟨item, _, hitem, rfl⟩
    | cons y ys =>
      obtain ⟨item, others, hitem, -, rfl⟩ := h
      exact ⟨item, _, hitem, rfl⟩
  obtain ⟨item, others, hitem, rfl⟩ := hitem
  obtain ⟨body, after, hbody, hskip, -⟩ := hitem.skipSpace_append (others ++ rest)
  obtain ⟨c, behind, rfl, hspace, hbracket⟩ := hbody.head
  refine ⟨c, behind ++ (after ++ (others ++ rest)), ?_, hbracket⟩
  rw [List.append_assoc, hskip, List.cons_append, skipSpace_cons hspace]

/-- What stands at the front of the members of an object. -/
theorem Draft.areMembers_head {name : String} {x : Draft} {fields : List (String × Draft)}
    {cs : List Char} (h : Draft.AreMembers ((name, x) :: fields) cs) (rest : List Char) :
    ∃ behind, skipSpace (cs ++ rest) = '"' :: behind := by
  have hkey : ∃ key others, Padded (IsString (some name)) key ∧ cs = key ++ others := by
    cases fields with
    | nil =>
      obtain ⟨key, item, hkey, -, rfl⟩ := h
      exact ⟨key, _, hkey, rfl⟩
    | cons y ys =>
      obtain ⟨key, item, others, hkey, -, -, rfl⟩ := h
      exact ⟨key, _, hkey, rfl⟩
  obtain ⟨key, others, hkey, rfl⟩ := hkey
  obtain ⟨_, after, ⟨ps, inner, -, rfl, -⟩, hskip, -⟩ := hkey.skipSpace_append (others ++ rest)
  rw [List.append_assoc, hskip]
  exact ⟨_, skipSpace_cons rfl _⟩

/-! ## Reading after space -/

theorem skipSpace_skipSpace (cs : List Char) : skipSpace (skipSpace cs) = skipSpace cs :=
  List.dropWhile_idempotent isSpace cs

theorem readValue_skipSpace (fuel : Nat) (cs : List Char) :
    readValue fuel (skipSpace cs) = readValue fuel cs := by
  cases fuel with
  | zero => rfl
  | succ fuel => rw [readValue, readValue, skipSpace_skipSpace]

theorem readValue_gap_append {gap : List Char} (h : IsGap gap) (fuel : Nat) (cs : List Char) :
    readValue fuel (gap ++ cs) = readValue fuel cs := by
  rw [← readValue_skipSpace, skipSpace_gap_append h, readValue_skipSpace]

theorem readItems_skipSpace (fuel : Nat) (cs : List Char) :
    readItems fuel (skipSpace cs) = readItems fuel cs := by
  cases fuel with
  | zero => rfl
  | succ fuel => rw [readItems, readItems, readValue_skipSpace]

theorem readFields_skipSpace (fuel : Nat) (cs : List Char) :
    readFields fuel (skipSpace cs) = readFields fuel cs := by
  cases fuel with
  | zero => rfl
  | succ fuel => rw [readFields, readFields, skipSpace_skipSpace]

/-! ## Texts are read -/

/-- A draft is read wherever its text stands and nothing follows that could go on with it. -/
def Draft.IsRead (x : Draft) : Prop :=
  ∀ cs, x.IsText cs → ∀ rest, Follows rest → ∀ fuel, cs.length < fuel →
    readValue fuel (cs ++ rest) = (x, some rest)

/-- With space around it too it is read, up to the comma or bracket after it. -/
theorem Draft.IsRead.padded {x : Draft} (hx : x.IsRead) {item : List Char}
    (hitem : Padded x.IsText item) {c : Char} (hc : c = ',' ∨ c = ']' ∨ c = '\x7d')
    (rest : List Char) {fuel : Nat} (hfuel : item.length < fuel) :
    ∃ after, readValue fuel (item ++ c :: rest) = (x, some after) ∧
      skipSpace after = c :: rest := by
  have hspace : isSpace c = false := by
    rcases hc with rfl | rfl | rfl <;> rfl
  have hfollows : Follows (c :: rest) := by
    intro d hd
    obtain rfl : c = d := Option.some.inj hd
    rcases hc with rfl | rfl | rfl <;> decide
  obtain ⟨before, body, after, hbefore, hafter, hbody, rfl⟩ := hitem
  rw [List.length_append, List.length_append] at hfuel
  refine ⟨after ++ c :: rest, ?_, ?_⟩
  · rw [List.append_assoc, List.append_assoc, readValue_gap_append hbefore]
    exact hx body hbody _ (follows_gap_append hafter hfollows) fuel (by omega)
  · rw [skipSpace_gap_append hafter, skipSpace_cons hspace]

theorem readItems_of_skipSpace {x : Draft} {cs after : List Char} {fuel : Nat}
    (hread : readValue fuel cs = (x, some after)) :
    (∀ rest, skipSpace after = ']' :: rest →
      readItems (fuel + 1) cs = ([x], none, some rest)) ∧
    (∀ {xs rest others}, skipSpace after = ',' :: others →
      (∃ c behind, skipSpace others = c :: behind ∧ c ≠ ']') →
      readItems fuel others = (xs, none, some rest) →
      readItems (fuel + 1) cs = (x :: xs, none, some rest)) := by
  constructor
  · intro rest hclose
    rw [readItems, hread]
    simp only [hclose]
  · rintro xs rest others hcomma ⟨c, behind, hskip, hbracket⟩ hothers
    rw [← readItems_skipSpace, hskip] at hothers
    rw [readItems, hread]
    simp only [hcomma, hskip]
    split
    · next heq => exact absurd (List.cons.inj heq).1 hbracket
    · rw [hothers]

/-- The text of a string is read behind its quotation mark. -/
theorem IsString.readString {s : Option String} {text : List Char} (h : IsString s text)
    (rest : List Char) :
    ∃ inner, text ++ rest = '"' :: inner ∧
      readString (inner.length + 1) [] true inner = .ok (s, rest) := by
  obtain ⟨ps, inner, hps, rfl, hs⟩ := h
  have heq : '"' :: (inner ++ '"' :: rest) = '"' :: (inner ++ ['"']) ++ rest := by simp
  exact ⟨inner ++ '"' :: rest, heq.symm, readString_eq_ok_iff.2 ⟨_, ⟨ps, inner, hps, rfl, hs⟩, heq⟩⟩

theorem readFields_of_skipSpace {name : String} {x : Draft} {key cs after : List Char}
    {fuel : Nat} (hkey : Padded (IsString (some name)) key)
    (hread : readValue fuel cs = (x, some after)) :
    (∀ rest, skipSpace after = '\x7d' :: rest →
      readFields (fuel + 1) (key ++ ':' :: cs) = ([(name, x)], none, some rest)) ∧
    (∀ {fields rest others}, skipSpace after = ',' :: others →
      (∃ behind, skipSpace others = '"' :: behind) →
      readFields fuel others = (fields, none, some rest) →
      readFields (fuel + 1) (key ++ ':' :: cs) = ((name, x) :: fields, none, some rest)) := by
  obtain ⟨body, gap, hbody, hskip, hgap⟩ := hkey.skipSpace_append (':' :: cs)
  obtain ⟨inner, hquote, hname⟩ := hbody.readString (gap ++ ':' :: cs)
  rw [hquote, skipSpace_cons rfl] at hskip
  have hcolon : skipSpace (gap ++ ':' :: cs) = ':' :: cs := by
    rw [skipSpace_gap_append hgap, skipSpace_cons rfl]
  constructor
  · intro rest hclose
    rw [readFields]
    simp only [hskip, hname, hcolon, hread, hclose]
  · rintro fields rest others hcomma ⟨behind, hbehind⟩ hothers
    rw [← readFields_skipSpace, hbehind] at hothers
    rw [readFields]
    simp only [hskip, hname, hcolon, hread, hcomma, hbehind]
    split
    · next heq => exact absurd (List.cons.inj heq).1 (by decide)
    · rw [hothers]

theorem readValue_array {items : List Draft} {inner rest : List Char} {fuel : Nat}
    (hempty : items = [] → ∃ gap, IsGap gap ∧ inner = gap ++ ']' :: rest)
    (hitems : items ≠ [] → (∃ c behind, skipSpace inner = c :: behind ∧ c ≠ ']') ∧
      readItems fuel inner = (items, none, some rest)) :
    readValue (fuel + 1) ('[' :: inner) = (.array items none, some rest) := by
  have hskip : skipSpace ('[' :: inner) = '[' :: inner := skipSpace_cons rfl inner
  cases items with
  | nil =>
    obtain ⟨gap, hgap, rfl⟩ := hempty rfl
    have hclose : skipSpace (gap ++ ']' :: rest) = ']' :: rest := by
      rw [skipSpace_gap_append hgap, skipSpace_cons rfl]
    rw [readValue]
    simp only [hskip, hclose]
  | cons x xs =>
    obtain ⟨⟨c, behind, hfirst, hbracket⟩, hread⟩ := hitems (List.cons_ne_nil x xs)
    rw [← readItems_skipSpace, hfirst] at hread
    rw [readValue]
    simp only [hskip, hfirst]
    split
    · next heq => exact absurd (List.cons.inj heq).1 hbracket
    · next heq => exact nomatch heq
    · rw [hread]

theorem readValue_object {fields : List (String × Draft)} {inner rest : List Char} {fuel : Nat}
    (hempty : fields = [] → ∃ gap, IsGap gap ∧ inner = gap ++ '\x7d' :: rest)
    (hfields : fields ≠ [] → (∃ behind, skipSpace inner = '"' :: behind) ∧
      readFields fuel inner = (fields, none, some rest)) :
    readValue (fuel + 1) ('\x7b' :: inner) = (.object fields none, some rest) := by
  have hskip : skipSpace ('\x7b' :: inner) = '\x7b' :: inner := skipSpace_cons rfl inner
  cases fields with
  | nil =>
    obtain ⟨gap, hgap, rfl⟩ := hempty rfl
    have hclose : skipSpace (gap ++ '\x7d' :: rest) = '\x7d' :: rest := by
      rw [skipSpace_gap_append hgap, skipSpace_cons rfl]
    rw [readValue]
    simp only [hskip, hclose]
  | cons member others =>
    obtain ⟨⟨behind, hfirst⟩, hread⟩ := hfields (List.cons_ne_nil member others)
    rw [← readFields_skipSpace, hfirst] at hread
    rw [readValue]
    simp only [hskip, hfirst]
    split
    · next heq => exact absurd (List.cons.inj heq).1 (by decide)
    · rw [hread]

/-- What reads a number is chosen by the first character. -/
theorem readValue_of_number {c : Char} (hfirst : c = '-' ∨ c.isDigit = true) (cs : List Char)
    (fuel : Nat) :
    readValue (fuel + 1) (c :: cs) =
      match readNumeral (c :: cs) with
      | .ok (n, rest) => (.number n.toNumber?, some rest)
      | .error flaw => (.broken flaw, none) := by
  have hsign : (c == '-' || c.isDigit) = true := by
    rcases hfirst with rfl | hdigit
    · rfl
    · rw [hdigit, Bool.or_true]
  have hhead : ∀ d ds, c :: cs = d :: ds → d = '-' ∨ d.isDigit = true := by
    rintro d ds heq
    obtain rfl := (List.cons.inj heq).1
    exact hfirst
  rw [readValue, skipSpace_cons (isSpace_eq_false_of_number hfirst)]
  split
  · next heq => exact nomatch heq
  iterate 6
    · next heq => exact absurd (hhead _ _ heq) (by decide)
  · next heq =>
    obtain ⟨rfl, rfl⟩ := List.cons.inj heq
    exact if_pos hsign

mutual

theorem Draft.isRead (x : Draft) : x.IsRead := by
  intro cs h rest hrest fuel hfuel
  obtain ⟨fuel, rfl⟩ : ∃ n, fuel = n + 1 := ⟨fuel - 1, by omega⟩
  cases x with
  | null =>
    obtain rfl : cs = "null".toList := h
    rfl
  | bool b =>
    cases b with
    | false =>
      obtain rfl : cs = "false".toList := h
      rfl
    | true =>
      obtain rfl : cs = "true".toList := h
      rfl
  | number n =>
    obtain ⟨numeral, htext, rfl⟩ := h
    have hread := readNumeral_isText htext hrest
    obtain ⟨c, behind, rfl, hfirst⟩ := htext.head
    rw [List.cons_append] at hread ⊢
    rw [readValue_of_number hfirst, hread]
  | string s =>
    obtain ⟨inner, hquote, hread⟩ := IsString.readString h rest
    have hskip : skipSpace ('"' :: inner) = '"' :: inner := skipSpace_cons rfl inner
    rw [hquote, readValue]
    simp only [hskip, hread]
  | array items flaw =>
    cases flaw with
    | some flaw => exact h.elim
    | none =>
      obtain ⟨inner, rfl, hinner⟩ := h
      rw [List.length_cons] at hfuel
      refine readValue_array ?_ fun hne => ⟨?_, ?_⟩
      · rintro rfl
        obtain ⟨gap, hgap, rfl⟩ := hinner
        exact ⟨gap, hgap, List.append_assoc _ _ _⟩
      · obtain ⟨x, xs, rfl⟩ := List.exists_cons_of_ne_nil hne
        exact Draft.areItems_head hinner rest
      · exact readItems_areItems items hne hinner rest (by omega)
  | object fields flaw =>
    cases flaw with
    | some flaw => exact h.elim
    | none =>
      obtain ⟨inner, rfl, hinner⟩ := h
      rw [List.length_cons] at hfuel
      refine readValue_object ?_ fun hne => ⟨?_, ?_⟩
      · rintro rfl
        obtain ⟨gap, hgap, rfl⟩ := hinner
        exact ⟨gap, hgap, List.append_assoc _ _ _⟩
      · obtain ⟨⟨name, x⟩, others, rfl⟩ := List.exists_cons_of_ne_nil hne
        exact Draft.areMembers_head hinner rest
      · exact readFields_areMembers fields hne hinner rest (by omega)
  | broken flaw => exact h.elim

/-- The items of an array are read to its closing bracket. -/
theorem readItems_areItems (items : List Draft) (hne : items ≠ []) {cs : List Char}
    (h : Draft.AreItems items cs) (rest : List Char) {fuel : Nat} (hfuel : cs.length < fuel) :
    readItems fuel (cs ++ rest) = (items, none, some rest) := by
  obtain ⟨fuel, rfl⟩ : ∃ n, fuel = n + 1 := ⟨fuel - 1, by omega⟩
  cases items with
  | nil => exact absurd rfl hne
  | cons x xs =>
    cases xs with
    | nil =>
      obtain ⟨item, hitem, rfl⟩ := h
      rw [List.length_append, List.length_singleton] at hfuel
      obtain ⟨after, hread, hclose⟩ :=
        x.isRead.padded hitem (.inr (.inl rfl)) rest (show item.length < fuel by omega)
      rw [List.append_assoc]
      exact (readItems_of_skipSpace hread).1 rest hclose
    | cons y ys =>
      obtain ⟨item, others, hitem, hothers, rfl⟩ := h
      rw [List.length_append, List.length_cons] at hfuel
      obtain ⟨after, hread, hcomma⟩ :=
        x.isRead.padded hitem (.inl rfl) (others ++ rest) (show item.length < fuel by omega)
      rw [List.append_assoc]
      refine (readItems_of_skipSpace hread).2 hcomma (Draft.areItems_head hothers rest) ?_
      exact readItems_areItems (y :: ys) (List.cons_ne_nil _ _) hothers rest (by omega)

/-- The members of an object are read to its closing brace. -/
theorem readFields_areMembers (fields : List (String × Draft)) (hne : fields ≠ [])
    {cs : List Char} (h : Draft.AreMembers fields cs) (rest : List Char) {fuel : Nat}
    (hfuel : cs.length < fuel) :
    readFields fuel (cs ++ rest) = (fields, none, some rest) := by
  obtain ⟨fuel, rfl⟩ : ∃ n, fuel = n + 1 := ⟨fuel - 1, by omega⟩
  cases fields with
  | nil => exact absurd rfl hne
  | cons member xs =>
    obtain ⟨name, x⟩ := member
    cases xs with
    | nil =>
      obtain ⟨key, item, hkey, hitem, rfl⟩ := h
      rw [List.length_append, List.length_cons, List.length_append] at hfuel
      obtain ⟨after, hread, hclose⟩ :=
        x.isRead.padded hitem (.inr (.inr rfl)) rest (show item.length < fuel by omega)
      rw [List.append_assoc, List.cons_append, List.append_assoc]
      exact (readFields_of_skipSpace hkey hread).1 rest hclose
    | cons other xs =>
      obtain ⟨key, item, others, hkey, hitem, hothers, rfl⟩ := h
      rw [List.length_append, List.length_cons, List.length_append, List.length_cons] at hfuel
      obtain ⟨after, hread, hcomma⟩ :=
        x.isRead.padded hitem (.inl rfl) (others ++ rest) (show item.length < fuel by omega)
      rw [List.append_assoc, List.cons_append, List.append_assoc]
      refine (readFields_of_skipSpace hkey hread).2 hcomma (Draft.areMembers_head hothers rest) ?_
      exact readFields_areMembers (other :: xs) (List.cons_ne_nil _ _) hothers rest (by omega)

end

end Rubric.Json
