/-
  Rubric.Proofs.Json.Parsed

  That only texts are read.

  What is read to an end is the text of its draft, with space before it. The proof follows
  the reader: a value, the items of an array and the members of an object each read one
  thing and go on behind it. So a text is the whole of one value iff no mistake is found
  in it, neither in the draft nor behind it.
-/
import Rubric.Proofs.Json.Grammar

namespace Rubric.Json

/-! ## What is read is a text -/

/-- A text that is as `p` says stands in front of `rest`. -/
def Heads (p : List Char → Prop) (cs rest : List Char) : Prop :=
  ∃ text, p text ∧ cs = text ++ rest

theorem readWord_eq_some {word cs rest : List Char} {value d : Draft}
    (h : readWord word value cs = (d, some rest)) : d = value ∧ cs = word ++ rest := by
  induction word generalizing cs with
  | nil =>
    obtain ⟨rfl, hrest⟩ := Prod.mk.inj h
    obtain rfl := Option.some.inj hrest
    exact ⟨rfl, rfl⟩
  | cons w word ih =>
    cases cs with
    | nil => cases h
    | cons c cs =>
      rw [readWord] at h
      split at h
      next hc =>
        obtain rfl := eq_of_beq hc
        obtain ⟨rfl, rfl⟩ := ih h
        exact ⟨rfl, rfl⟩
      next => cases h

/-- Values that are read up to `fuel` have texts, with space before them. -/
def ValuesHaveTexts (fuel : Nat) : Prop :=
  ∀ {cs d rest}, readValue fuel cs = (d, some rest) → Heads d.IsText (skipSpace cs) rest

/-- Items that are read up to `fuel` have texts, and there is one at least. -/
def ItemsHaveTexts (fuel : Nat) : Prop :=
  ∀ {cs items flaw rest}, readItems fuel cs = (items, flaw, some rest) →
    flaw = none ∧ items ≠ [] ∧ Heads (Draft.AreItems items) cs rest

/-- Members that are read up to `fuel` have texts, and there is one at least. -/
def MembersHaveTexts (fuel : Nat) : Prop :=
  ∀ {cs fields flaw rest}, readFields fuel cs = (fields, flaw, some rest) →
    flaw = none ∧ fields ≠ [] ∧ Heads (Draft.AreMembers fields) cs rest

theorem heads_array {fuel : Nat} (hitems : ItemsHaveTexts fuel) {inner rest : List Char}
    {d : Draft} (h : readValue (fuel + 1) ('[' :: inner) = (d, some rest)) :
    Heads d.IsText ('[' :: inner) rest := by
  obtain ⟨gap, hgap, hinner⟩ := exists_gap inner
  have hskip : skipSpace ('[' :: inner) = '[' :: inner := skipSpace_cons rfl inner
  rw [readValue] at h
  simp only [hskip] at h
  split at h
  · next behind hclose =>
    obtain ⟨rfl, hrest⟩ := Prod.mk.inj h
    obtain rfl := Option.some.inj hrest
    refine ⟨'[' :: (gap ++ [']']), ⟨_, rfl, gap, hgap, rfl⟩, ?_⟩
    rw [hinner, hclose]
    simp
  · cases h
  · rw [readItems_skipSpace] at h
    cases hread : readItems fuel inner with
    | mk items result =>
      obtain ⟨flaw, behind⟩ := result
      rw [hread] at h
      obtain ⟨rfl, rfl⟩ := Prod.mk.inj h
      obtain ⟨rfl, -, text, htext, rfl⟩ := hitems hread
      exact ⟨'[' :: text, ⟨text, rfl, htext⟩, rfl⟩

theorem heads_object {fuel : Nat} (hfields : MembersHaveTexts fuel) {inner rest : List Char}
    {d : Draft} (h : readValue (fuel + 1) ('\x7b' :: inner) = (d, some rest)) :
    Heads d.IsText ('\x7b' :: inner) rest := by
  obtain ⟨gap, hgap, hinner⟩ := exists_gap inner
  have hskip : skipSpace ('\x7b' :: inner) = '\x7b' :: inner := skipSpace_cons rfl inner
  rw [readValue] at h
  simp only [hskip] at h
  split at h
  · next behind hclose =>
    obtain ⟨rfl, hrest⟩ := Prod.mk.inj h
    obtain rfl := Option.some.inj hrest
    refine ⟨'\x7b' :: (gap ++ ['\x7d']), ⟨_, rfl, gap, hgap, rfl⟩, ?_⟩
    rw [hinner, hclose]
    simp
  · rw [readFields_skipSpace] at h
    cases hread : readFields fuel inner with
    | mk fields result =>
      obtain ⟨flaw, behind⟩ := result
      rw [hread] at h
      obtain ⟨rfl, rfl⟩ := Prod.mk.inj h
      obtain ⟨rfl, -, text, htext, rfl⟩ := hfields hread
      exact ⟨'\x7b' :: text, ⟨text, rfl, htext⟩, rfl⟩

theorem ValuesHaveTexts.succ {fuel : Nat} (hitems : ItemsHaveTexts fuel)
    (hfields : MembersHaveTexts fuel) : ValuesHaveTexts (fuel + 1) := by
  intro cs d rest h
  rw [← readValue_skipSpace] at h
  -- The words of the texts of null and of truth values stand behind their first letters.
  have hword : ∀ {c word behind value}, value.IsText (c :: word) →
      readWord word value behind = (d, some rest) → Heads d.IsText (c :: behind) rest := by
    intro c word behind value hvalue hread
    obtain ⟨rfl, rfl⟩ := readWord_eq_some hread
    exact ⟨c :: word, hvalue, rfl⟩
  cases hcs : skipSpace cs with
  | nil =>
    rw [hcs] at h
    cases h
  | cons c inner =>
    have hspace : skipSpace (c :: inner) = c :: inner := by rw [← hcs, skipSpace_skipSpace]
    rw [hcs] at h
    by_cases harray : c = '['
    · subst harray
      exact heads_array hitems h
    by_cases hobject : c = '\x7b'
    · subst hobject
      exact heads_object hfields h
    by_cases hnumber : c = '-' ∨ c.isDigit = true
    · rw [readValue_of_number hnumber] at h
      split at h
      · next n behind hread =>
        obtain ⟨rfl, hrest⟩ := Prod.mk.inj h
        obtain rfl := Option.some.inj hrest
        obtain ⟨text, htext, heq⟩ := exists_isText_of_readNumeral hread
        exact ⟨text, ⟨n, htext, rfl⟩, heq⟩
      · cases h
    rw [readValue] at h
    simp only [hspace] at h
    split at h
    next heq => cases heq
    next heq =>
      obtain ⟨rfl, rfl⟩ := List.cons.inj heq
      exact hword (show Draft.IsText .null ('n' :: "ull".toList) from rfl) h
    next heq =>
      obtain ⟨rfl, rfl⟩ := List.cons.inj heq
      exact hword (show Draft.IsText (.bool true) ('t' :: "rue".toList) from rfl) h
    next heq =>
      obtain ⟨rfl, rfl⟩ := List.cons.inj heq
      exact hword (show Draft.IsText (.bool false) ('f' :: "alse".toList) from rfl) h
    next heq =>
      obtain ⟨rfl, rfl⟩ := List.cons.inj heq
      split at h
      next hread =>
        obtain ⟨rfl, hrest⟩ := Prod.mk.inj h
        obtain rfl := Option.some.inj hrest
        exact readString_eq_ok_iff.1 hread
      next => cases h
    next heq => exact absurd (List.cons.inj heq).1 harray
    next heq => exact absurd (List.cons.inj heq).1 hobject
    next heq =>
      obtain ⟨rfl, rfl⟩ := List.cons.inj heq
      rw [if_neg (by simpa using hnumber)] at h
      cases h

/-- What stands before the next comma or bracket is a text with space around it. -/
theorem Heads.padded {p : List Char → Prop} {cs after rest : List Char} {c : Char}
    (h : Heads p (skipSpace cs) after) (hafter : skipSpace after = c :: rest) :
    Heads (Padded p) cs (c :: rest) := by
  obtain ⟨gap, hgap, hcs⟩ := exists_gap cs
  obtain ⟨behind, hbehind, heq⟩ := exists_gap after
  obtain ⟨text, htext, hskip⟩ := h
  refine ⟨gap ++ (text ++ behind), ⟨gap, text, behind, hgap, hbehind, htext, rfl⟩, ?_⟩
  rw [hafter] at heq
  rw [hcs, hskip, heq]
  simp only [List.append_assoc]

theorem Draft.areItems_cons {x : Draft} {xs : List Draft} (hne : xs ≠ []) {item others : List Char}
    (hitem : Padded x.IsText item) (hothers : Draft.AreItems xs others) :
    Draft.AreItems (x :: xs) (item ++ ',' :: others) := by
  obtain ⟨y, ys, rfl⟩ := List.exists_cons_of_ne_nil hne
  exact ⟨item, others, hitem, hothers, rfl⟩

theorem Draft.areMembers_cons {name : String} {x : Draft} {xs : List (String × Draft)}
    (hne : xs ≠ []) {key item others : List Char} (hkey : Padded (IsString (some name)) key)
    (hitem : Padded x.IsText item) (hothers : Draft.AreMembers xs others) :
    Draft.AreMembers ((name, x) :: xs) (key ++ ':' :: (item ++ ',' :: others)) := by
  obtain ⟨y, ys, rfl⟩ := List.exists_cons_of_ne_nil hne
  exact ⟨key, item, others, hkey, hitem, hothers, rfl⟩

theorem ItemsHaveTexts.succ {fuel : Nat} (hvalues : ValuesHaveTexts fuel)
    (hitems : ItemsHaveTexts fuel) : ItemsHaveTexts (fuel + 1) := by
  intro cs items flaw rest h
  rw [readItems] at h
  split at h
  · cases h
  next x after hread =>
    split at h
    next behind hclose =>
      obtain ⟨rfl, hpair⟩ := Prod.mk.inj h
      obtain ⟨rfl, hrest⟩ := Prod.mk.inj hpair
      obtain rfl := Option.some.inj hrest
      obtain ⟨item, hitem, rfl⟩ := (hvalues hread).padded hclose
      exact ⟨rfl, List.cons_ne_nil x [], item ++ [']'], ⟨item, hitem, rfl⟩, by simp⟩
    next behind hcomma =>
      split at h
      · cases h
      · rw [readItems_skipSpace] at h
        cases hothers : readItems fuel behind with
        | mk xs result =>
          obtain ⟨flaw', behind'⟩ := result
          rw [hothers] at h
          obtain ⟨rfl, hpair⟩ := Prod.mk.inj h
          obtain ⟨rfl, rfl⟩ := Prod.mk.inj hpair
          obtain ⟨rfl, hne, others, hxs, rfl⟩ := hitems hothers
          obtain ⟨item, hitem, rfl⟩ := (hvalues hread).padded hcomma
          exact ⟨rfl, List.cons_ne_nil x xs, _, Draft.areItems_cons hne hitem hxs, by simp⟩
    next => cases h

theorem MembersHaveTexts.succ {fuel : Nat} (hvalues : ValuesHaveTexts fuel)
    (hfields : MembersHaveTexts fuel) : MembersHaveTexts (fuel + 1) := by
  intro cs fields flaw rest h
  rw [readFields] at h
  split at h
  next inner hquote =>
    split at h
    · cases h
    · cases h
    next name after hname =>
      split at h
      next body hcolon =>
        have hstring : Heads (IsString (some name)) (skipSpace cs) after := by
          rw [hquote]
          exact readString_eq_ok_iff.1 hname
        obtain ⟨key, hkey, rfl⟩ := hstring.padded hcolon
        split at h
        · cases h
        next x after' hread =>
          split at h
          next behind hclose =>
            obtain ⟨rfl, hpair⟩ := Prod.mk.inj h
            obtain ⟨rfl, hrest⟩ := Prod.mk.inj hpair
            obtain rfl := Option.some.inj hrest
            obtain ⟨item, hitem, rfl⟩ := (hvalues hread).padded hclose
            exact ⟨rfl, List.cons_ne_nil _ [], key ++ ':' :: (item ++ ['\x7d']),
              ⟨key, item, hkey, hitem, rfl⟩, by simp⟩
          next behind hcomma =>
            split at h
            · cases h
            · rw [readFields_skipSpace] at h
              cases hothers : readFields fuel behind with
              | mk xs result =>
                obtain ⟨flaw', behind'⟩ := result
                rw [hothers] at h
                obtain ⟨rfl, hpair⟩ := Prod.mk.inj h
                obtain ⟨rfl, rfl⟩ := Prod.mk.inj hpair
                obtain ⟨rfl, hne, others, hxs, rfl⟩ := hfields hothers
                obtain ⟨item, hitem, rfl⟩ := (hvalues hread).padded hcomma
                exact ⟨rfl, List.cons_ne_nil _ xs, _, Draft.areMembers_cons hne hkey hitem hxs,
                  by simp⟩
          next => cases h
      next => cases h
  next => cases h

/-- **What is read to an end has a text.** -/
theorem haveTexts (fuel : Nat) :
    ValuesHaveTexts fuel ∧ ItemsHaveTexts fuel ∧ MembersHaveTexts fuel := by
  induction fuel with
  | zero =>
    refine ⟨fun h => ?_, fun h => ?_, fun h => ?_⟩
    · cases h
    · cases h
    · cases h
  | succ fuel ih =>
    obtain ⟨hvalues, hitems, hfields⟩ := ih
    exact ⟨ValuesHaveTexts.succ hitems hfields, ItemsHaveTexts.succ hvalues hitems,
      MembersHaveTexts.succ hvalues hfields⟩

/-! ## Whole texts -/

/-- The mistake that a draft ends with, if it does. -/
def Draft.flaw? : Draft → Option Flaw
  | .array _ flaw => flaw
  | .object _ flaw => flaw
  | .broken flaw => some flaw
  | _ => none

theorem Draft.IsText.flaw?_eq {d : Draft} {cs : List Char} (h : d.IsText cs) : d.flaw? = none := by
  cases d with
  | array items flaw => cases flaw with
    | none => rfl
    | some flaw => exact h.elim
  | object fields flaw => cases flaw with
    | none => rfl
    | some flaw => exact h.elim
  | broken flaw => exact h.elim
  | _ => rfl

theorem flaw_of_readItems {fuel : Nat} {cs : List Char} {items : List Draft} {flaw : Option Flaw}
    (h : readItems fuel cs = (items, flaw, none)) : flaw ≠ none := by
  induction fuel generalizing cs items with
  | zero =>
    cases h
    exact Option.some_ne_none _
  | succ fuel ih =>
    rw [readItems] at h
    split at h
    · cases h
      exact Option.some_ne_none _
    · split at h
      · cases h
      · split at h
        · cases h
          exact Option.some_ne_none _
        · generalize hothers : readItems fuel _ = others at h
          obtain ⟨xs, flaw', rest⟩ := others
          cases h
          exact ih hothers
      · cases h
        exact Option.some_ne_none _

theorem flaw_of_readFields {fuel : Nat} {cs : List Char} {fields : List (String × Draft)}
    {flaw : Option Flaw} (h : readFields fuel cs = (fields, flaw, none)) : flaw ≠ none := by
  induction fuel generalizing cs fields with
  | zero =>
    cases h
    exact Option.some_ne_none _
  | succ fuel ih =>
    rw [readFields] at h
    split at h
    · split at h
      · cases h
        exact Option.some_ne_none _
      · cases h
        exact Option.some_ne_none _
      · split at h
        · split at h
          · cases h
            exact Option.some_ne_none _
          · split at h
            · cases h
            · split at h
              · cases h
                exact Option.some_ne_none _
              · generalize hothers : readFields fuel _ = others at h
                obtain ⟨xs, flaw', rest⟩ := others
                cases h
                exact ih hothers
            · cases h
              exact Option.some_ne_none _
        · cases h
          exact Option.some_ne_none _
    · cases h
      exact Option.some_ne_none _

theorem flaw_of_readWord {word cs : List Char} {value d : Draft}
    (h : readWord word value cs = (d, none)) : d.flaw? ≠ none := by
  induction word generalizing cs with
  | nil => cases h
  | cons w word ih =>
    cases cs with
    | nil =>
      cases h
      exact Option.some_ne_none _
    | cons c cs =>
      rw [readWord] at h
      split at h
      · exact ih h
      · cases h
        exact Option.some_ne_none _

/-- A draft that is not read to an end ends with a mistake. -/
theorem flaw_of_readValue {fuel : Nat} {cs : List Char} {d : Draft}
    (h : readValue fuel cs = (d, none)) : d.flaw? ≠ none := by
  cases fuel with
  | zero =>
    cases h
    exact Option.some_ne_none _
  | succ fuel =>
    rw [readValue] at h
    split at h
    · cases h
      exact Option.some_ne_none _
    · exact flaw_of_readWord h
    · exact flaw_of_readWord h
    · exact flaw_of_readWord h
    · split at h
      · cases h
      · cases h
        exact Option.some_ne_none _
    · split at h
      · cases h
      · cases h
        exact Option.some_ne_none _
      · generalize hitems : readItems fuel _ = result at h
        obtain ⟨items, flaw, rest⟩ := result
        cases h
        exact flaw_of_readItems hitems
    · split at h
      · cases h
      · generalize hfields : readFields fuel _ = result at h
        obtain ⟨fields, flaw, rest⟩ := result
        cases h
        exact flaw_of_readFields hfields
    · split at h
      · split at h
        · cases h
        · cases h
          exact Option.some_ne_none _
      · cases h
        exact Option.some_ne_none _

/-- **A text is the whole of one value iff it is read without a mistake**: the mistake could
    be in the value, where the draft ends with it, or behind it. -/
theorem ofText_eq_iff {text : String} {d : Draft} :
    Draft.ofText text = (d, none) ∧ d.flaw? = none ↔ Padded d.IsText text.toList := by
  unfold Draft.ofText
  simp only
  constructor
  · rintro ⟨h, hflaw⟩
    split at h
    next hread =>
      obtain ⟨rfl, -⟩ := Prod.mk.inj h
      exact absurd hflaw (flaw_of_readValue hread)
    next draft rest hread =>
      obtain ⟨rfl, htrailing⟩ := Prod.mk.inj h
      have hnothing : skipSpace rest = [] := by
        split at htrailing
        · assumption
        · cases htrailing
      obtain ⟨before, hbefore, hcs⟩ := exists_gap text.toList
      obtain ⟨after, hafter, hrest⟩ := exists_gap rest
      obtain ⟨body, hbody, hskip⟩ := (haveTexts _).1 hread
      rw [hnothing, List.append_nil] at hrest
      exact ⟨before, body, after, hbefore, hafter, hbody, by rw [← hrest, ← hskip, ← hcs]⟩
  · rintro ⟨before, body, after, hbefore, hafter, hbody, htext⟩
    have hfuel : body.length < text.toList.length + 2 := by
      rw [htext, List.length_append, List.length_append]
      omega
    have hfollows : Follows after := by
      have hgap := follows_gap_append hafter follows_nil
      rwa [List.append_nil] at hgap
    have hread : readValue (text.toList.length + 2) text.toList = (d, some after) := by
      generalize text.toList.length + 2 = fuel at hfuel ⊢
      rw [htext, readValue_gap_append hbefore]
      exact d.isRead body hbody after hfollows fuel hfuel
    have hnothing : skipSpace after = [] := by
      have hgap := skipSpace_gap_append hafter []
      rwa [List.append_nil] at hgap
    simp only [hread, hnothing, hbody.flaw?_eq, and_self]

end Rubric.Json
