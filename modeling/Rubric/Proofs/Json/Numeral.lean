/-
  Rubric.Proofs.Json.Numeral

  Numbers: their texts, and that exactly these are read.

  A number goes on as far as it can, so that it is read only where nothing follows that
  could go on with it. What follows a number in a value never could. The writers write a
  whole number that is kept exactly in one of these ways.
-/
import Rubric.Proofs.Json.Lexeme

namespace Rubric.Json

/-! ## Numbers -/

/-- A text that does not go on with a number that stands before it. -/
def Follows (cs : List Char) : Prop :=
  ∀ c ∈ cs.head?, c.isDigit = false ∧ c ≠ '.' ∧ c ≠ 'e' ∧ c ≠ 'E'

theorem follows_nil : Follows [] := fun _ hc => nomatch hc

theorem follows_cons_of_isSpace {c : Char} (h : isSpace c = true) (cs : List Char) :
    Follows (c :: cs) := by
  intro d hd
  obtain rfl : c = d := Option.some.inj hd
  simp only [isSpace, Bool.or_eq_true, beq_iff_eq] at h
  rcases h with ((rfl | rfl) | rfl) | rfl <;> decide

theorem follows_gap_append {gap cs : List Char} (hgap : IsGap gap) (hcs : Follows cs) :
    Follows (gap ++ cs) := by
  cases gap with
  | nil => exact hcs
  | cons c gap => exact follows_cons_of_isSpace (hgap c List.mem_cons_self) _

/-- A row of digits, at least one. -/
def AreDigits (ds : List Char) : Prop :=
  ds ≠ [] ∧ ∀ c ∈ ds, c.isDigit = true

/-- The characters after the whole part: a point and digits, if there is one. -/
inductive IsFraction : Option (List Char) → List Char → Prop
  | none : IsFraction none []
  | some {ds : List Char} : AreDigits ds → IsFraction (some ds) ('.' :: ds)

/-- The sign of an exponent, which may be left out where it is positive. -/
inductive IsSign : Bool → List Char → Prop
  | none : IsSign false []
  | plus : IsSign false ['+']
  | minus : IsSign true ['-']

/-- The exponent of a number, if there is one. -/
inductive IsExponent : Option (Bool × List Char) → List Char → Prop
  | none : IsExponent none []
  | some {e : Char} {negative : Bool} {sign ds : List Char} : e = 'e' ∨ e = 'E' →
      IsSign negative sign → AreDigits ds → IsExponent (some (negative, ds)) (e :: (sign ++ ds))

/-- The sign of a number. -/
def minusSign (negative : Bool) : List Char :=
  if negative then ['-'] else []

/-- The characters are a number as written. A zero is not followed by another digit of the
    whole part. -/
structure Numeral.IsText (n : Numeral) (cs : List Char) : Prop where
  whole : AreDigits n.whole
  no_leading_zero : n.whole.head? = some '0' → n.whole.length ≤ 1
  parts : ∃ fraction exponent, IsFraction n.fraction fraction ∧ IsExponent n.exponent exponent ∧
    cs = minusSign n.negative ++ (n.whole ++ (fraction ++ exponent))

theorem AreDigits.exists_cons {ds : List Char} (h : AreDigits ds) :
    ∃ d rest, ds = d :: rest ∧ d.isDigit = true ∧ d ≠ '-' ∧ d ≠ '+' := by
  obtain ⟨d, rest, rfl⟩ := List.exists_cons_of_ne_nil h.1
  have hd : d.isDigit = true := h.2 d List.mem_cons_self
  refine ⟨d, rest, rfl, hd, ?_, ?_⟩
  · rintro rfl
    exact absurd hd (by decide)
  · rintro rfl
    exact absurd hd (by decide)

/-- A number begins with its sign or a digit. -/
theorem Numeral.IsText.head {n : Numeral} {text : List Char} (h : n.IsText text) :
    ∃ c rest, text = c :: rest ∧ (c = '-' ∨ c.isDigit = true) := by
  obtain ⟨fraction, exponent, -, -, rfl⟩ := h.parts
  obtain ⟨d, ds, hds, hd, -⟩ := h.whole.exists_cons
  unfold minusSign
  split
  · exact ⟨_, _, rfl, .inl rfl⟩
  · exact ⟨d, ds ++ (fraction ++ exponent), by rw [hds]; rfl, .inr hd⟩

/-- A number does not begin with space. -/
theorem isSpace_eq_false_of_number {c : Char} (h : c = '-' ∨ c.isDigit = true) :
    isSpace c = false := by
  rcases h with rfl | hdigit
  · rfl
  · rw [← Bool.not_eq_true]
    intro hspace
    simp only [isSpace, Bool.or_eq_true, beq_iff_eq] at hspace
    rcases hspace with ((rfl | rfl) | rfl) | rfl <;> exact absurd hdigit (by decide)

theorem readDigits_eq_ok_iff {cs ds rest : List Char} :
    readDigits cs = .ok (ds, rest) ↔
      AreDigits ds ∧ cs = ds ++ rest ∧ ∀ c ∈ rest.head?, c.isDigit = false := by
  unfold readDigits
  constructor
  · intro h
    split at h
    next => cases h
    next hne =>
      obtain ⟨rfl, rfl⟩ := Prod.mk.inj (Except.ok.inj h)
      refine ⟨⟨hne, fun c hc => List.mem_takeWhile_imp hc⟩,
        List.takeWhile_append_dropWhile.symm, ?_⟩
      intro c hc
      have hstop := List.head?_dropWhile_not Char.isDigit cs
      rwa [Option.mem_def.1 hc] at hstop
  · rintro ⟨⟨hne, hdigits⟩, rfl, hstop⟩
    have htake : rest.takeWhile Char.isDigit = [] := by
      cases rest with
      | nil => rfl
      | cons c rest => exact List.takeWhile_cons_of_neg (by rw [hstop c rfl]; decide)
    have hdrop : rest.dropWhile Char.isDigit = rest := by
      cases rest with
      | nil => rfl
      | cons c rest => exact List.dropWhile_cons_of_neg (by rw [hstop c rfl]; decide)
    rw [List.takeWhile_append_of_pos hdigits, List.dropWhile_append_of_pos hdigits, htake, hdrop,
      List.append_nil]
    split
    · exact absurd rfl hne
    · rfl

/-- An exponent without its letter: whether it is negative, and the text after the sign. -/
def afterSign (cs : List Char) : Bool × List Char :=
  match cs with
  | '-' :: rest => (true, rest)
  | '+' :: rest => (false, rest)
  | _ => (false, cs)

theorem readExponent_cons (e : Char) (cs : List Char) :
    readExponent (e :: cs) =
      if e == 'e' || e == 'E' then
        match readDigits (afterSign cs).2 with
        | .error flaw => .error flaw
        | .ok (ds, rest) => .ok (some ((afterSign cs).1, ds), rest)
      else .ok (none, e :: cs) := rfl

theorem afterSign_append {negative : Bool} {sign ds : List Char} (hsign : IsSign negative sign)
    (hdigits : AreDigits ds) (rest : List Char) :
    afterSign (sign ++ (ds ++ rest)) = (negative, ds ++ rest) := by
  cases hsign with
  | none =>
    obtain ⟨d, ds, rfl, -, hminus, hplus⟩ := hdigits.exists_cons
    simp [afterSign, hminus, hplus]
  | plus => rfl
  | minus => rfl

theorem exists_isSign (cs : List Char) :
    ∃ sign, IsSign (afterSign cs).1 sign ∧ cs = sign ++ (afterSign cs).2 := by
  unfold afterSign
  split
  · exact ⟨_, .minus, rfl⟩
  · exact ⟨_, .plus, rfl⟩
  · exact ⟨_, .none, rfl⟩

/-- An exponent is read wherever no digit follows, and none where no exponent begins. -/
theorem readExponent_isExponent {exponent : Option (Bool × List Char)} {text rest : List Char}
    (h : IsExponent exponent text) (hrest : Follows rest) :
    readExponent (text ++ rest) = .ok (exponent, rest) := by
  cases h with
  | none =>
    cases rest with
    | nil => rfl
    | cons c rest =>
      obtain ⟨-, -, he, hE⟩ := hrest c rfl
      simp [readExponent_cons, he, hE]
  | @some e negative sign ds he hsign hdigits =>
    have hread : readDigits (ds ++ rest) = .ok (ds, rest) :=
      readDigits_eq_ok_iff.2 ⟨hdigits, rfl, fun c hc => (hrest c hc).1⟩
    rw [List.cons_append, List.append_assoc, readExponent_cons, if_pos (by simpa using he),
      afterSign_append hsign hdigits, hread]

theorem exists_isExponent {cs rest : List Char} {exponent : Option (Bool × List Char)}
    (h : readExponent cs = .ok (exponent, rest)) :
    ∃ text, IsExponent exponent text ∧ cs = text ++ rest := by
  cases cs with
  | nil =>
    obtain ⟨rfl, rfl⟩ := Prod.mk.inj (Except.ok.inj h)
    exact ⟨[], .none, rfl⟩
  | cons e cs =>
    rw [readExponent_cons] at h
    split at h
    · next hmark =>
      obtain ⟨sign, hsign, hcs⟩ := exists_isSign cs
      split at h
      · cases h
      · next ds behind hread =>
        obtain ⟨rfl, rfl⟩ := Prod.mk.inj (Except.ok.inj h)
        obtain ⟨hdigits, hbehind, -⟩ := readDigits_eq_ok_iff.1 hread
        refine ⟨_, .some (by simpa using hmark) hsign hdigits, ?_⟩
        rw [List.cons_append, List.append_assoc, ← hbehind, ← hcs]
    · obtain ⟨rfl, rfl⟩ := Prod.mk.inj (Except.ok.inj h)
      exact ⟨[], .none, rfl⟩

/-- A number without its sign: whether it is negative, and the text after the sign. -/
def afterMinus (cs : List Char) : Bool × List Char :=
  match cs with
  | '-' :: rest => (true, rest)
  | _ => (false, cs)

theorem afterMinus_append (negative : Bool) {ds : List Char} (hdigits : AreDigits ds)
    (rest : List Char) :
    afterMinus (minusSign negative ++ (ds ++ rest)) = (negative, ds ++ rest) := by
  cases negative with
  | false =>
    obtain ⟨d, ds, rfl, -, hminus, -⟩ := hdigits.exists_cons
    simp [afterMinus, minusSign, hminus]
  | true => rfl

theorem minusSign_append_afterMinus (cs : List Char) :
    minusSign (afterMinus cs).1 ++ (afterMinus cs).2 = cs := by
  unfold afterMinus
  split <;> rfl

/-- A whole part is refused for a zero in front iff it has another digit after it. -/
theorem leading_zero_eq_false_iff (whole : List Char) :
    (whole.head? == some '0' && decide (whole.length > 1)) = false ↔
      (whole.head? = some '0' → whole.length ≤ 1) := by
  rw [Bool.and_eq_false_imp, beq_iff_eq, decide_eq_false_iff_not, Nat.not_lt]

/-- Reads the fraction and the exponent behind the whole part. -/
def readTail (negative : Bool) (whole : List Char) (rest : List Char) :
    Except Flaw (Numeral × List Char) :=
  match rest with
  | '.' :: rest =>
    match readDigits rest with
    | .error flaw => .error flaw
    | .ok (fraction, rest) =>
      match readExponent rest with
      | .error flaw => .error flaw
      | .ok (exponent, rest) => .ok (⟨negative, whole, some fraction, exponent⟩, rest)
  | _ =>
    match readExponent rest with
    | .error flaw => .error flaw
    | .ok (exponent, rest) => .ok (⟨negative, whole, none, exponent⟩, rest)

theorem readNumeral_eq (cs : List Char) :
    readNumeral cs =
      match readDigits (afterMinus cs).2 with
      | .error flaw => .error flaw
      | .ok (whole, rest) =>
        if whole.head? == some '0' && whole.length > 1 then .error .malformed
        else readTail (afterMinus cs).1 whole rest := rfl

/-- An exponent does not begin with a digit or a point. -/
theorem IsExponent.head {exponent : Option (Bool × List Char)} {text rest : List Char}
    (h : IsExponent exponent text) (hrest : Follows rest) :
    ∀ c ∈ (text ++ rest).head?, c.isDigit = false ∧ c ≠ '.' := by
  cases h with
  | none => exact fun c hc => ⟨(hrest c hc).1, (hrest c hc).2.1⟩
  | some he _ _ =>
    intro c hc
    obtain rfl := Option.some.inj hc
    rcases he with rfl | rfl <;> decide

theorem readTail_written {negative : Bool} {whole fraction exponent rest : List Char}
    {fraction? : Option (List Char)} {exponent? : Option (Bool × List Char)}
    (hfraction : IsFraction fraction? fraction) (hexponent : IsExponent exponent? exponent)
    (hrest : Follows rest) :
    readTail negative whole (fraction ++ (exponent ++ rest)) =
      .ok (⟨negative, whole, fraction?, exponent?⟩, rest) := by
  have hread := readExponent_isExponent hexponent hrest
  have hhead := hexponent.head hrest
  cases hfraction with
  | none =>
    have hpoint : ∀ behind, exponent ++ rest ≠ '.' :: behind := fun behind heq =>
      (hhead '.' (by rw [heq]; rfl)).2 rfl
    unfold readTail
    rw [List.nil_append]
    split
    · next behind heq => exact absurd heq (hpoint behind)
    · rw [hread]
  | @some ds hdigits =>
    have hds : readDigits (ds ++ (exponent ++ rest)) = .ok (ds, exponent ++ rest) :=
      readDigits_eq_ok_iff.2 ⟨hdigits, rfl, fun c hc => (hhead c hc).1⟩
    simp only [readTail, List.cons_append, hds, hread]

theorem exists_written_of_readTail {negative : Bool} {whole cs rest : List Char} {n : Numeral}
    (h : readTail negative whole cs = .ok (n, rest)) :
    n.negative = negative ∧ n.whole = whole ∧
      ∃ fraction exponent, IsFraction n.fraction fraction ∧ IsExponent n.exponent exponent ∧
        cs = fraction ++ (exponent ++ rest) := by
  unfold readTail at h
  split at h
  · split at h
    · cases h
    next ds behind hds =>
      split at h
      · cases h
      next exponent? behind hread =>
        obtain ⟨rfl, rfl⟩ := Prod.mk.inj (Except.ok.inj h)
        obtain ⟨hdigits, rfl, -⟩ := readDigits_eq_ok_iff.1 hds
        obtain ⟨text, hexponent, rfl⟩ := exists_isExponent hread
        exact ⟨rfl, rfl, _, text, .some hdigits, hexponent, rfl⟩
  · split at h
    · cases h
    next exponent? behind hread =>
      obtain ⟨rfl, rfl⟩ := Prod.mk.inj (Except.ok.inj h)
      obtain ⟨text, hexponent, rfl⟩ := exists_isExponent hread
      exact ⟨rfl, rfl, [], text, .none, hexponent, rfl⟩

/-- What is read after a number that is written, if nothing follows that could go on with it,
    is the number. -/
theorem readNumeral_isText {n : Numeral} {text rest : List Char} (h : n.IsText text)
    (hrest : Follows rest) : readNumeral (text ++ rest) = .ok (n, rest) := by
  obtain ⟨negative, whole, fraction?, exponent?⟩ := n
  obtain ⟨hwhole, hzero, fraction, exponent, hfraction, hexponent, rfl⟩ := h
  have hdigits : readDigits (whole ++ (fraction ++ (exponent ++ rest)))
      = .ok (whole, fraction ++ (exponent ++ rest)) := by
    refine readDigits_eq_ok_iff.2 ⟨hwhole, rfl, ?_⟩
    cases hfraction with
    | none => exact fun c hc => (hexponent.head hrest c hc).1
    | some _ =>
      intro c hc
      obtain rfl := Option.some.inj hc
      rfl
  simp only [readNumeral_eq, List.append_assoc, afterMinus_append negative hwhole, hdigits,
    (leading_zero_eq_false_iff whole).2 hzero, Bool.false_eq_true, if_false]
  exact readTail_written hfraction hexponent hrest

/-- What is read as a number is the text of one. -/
theorem exists_isText_of_readNumeral {cs rest : List Char} {n : Numeral}
    (h : readNumeral cs = .ok (n, rest)) : ∃ text, n.IsText text ∧ cs = text ++ rest := by
  rw [readNumeral_eq] at h
  split at h
  · cases h
  next whole behind hread =>
    split at h
    · cases h
    next hzero =>
      obtain ⟨hwhole, heq, -⟩ := readDigits_eq_ok_iff.1 hread
      obtain ⟨hnegative, rfl, fraction, exponent, hfraction, hexponent, rfl⟩ :=
        exists_written_of_readTail h
      have hplain := (leading_zero_eq_false_iff n.whole).1 (Bool.eq_false_iff.2 hzero)
      refine ⟨_, ⟨hwhole, hplain, fraction, exponent, hfraction, hexponent, rfl⟩, ?_⟩
      have hcs := minusSign_append_afterMinus cs
      rw [heq] at hcs
      simpa only [hnegative, List.append_assoc] using hcs.symm

/-! ## Numbers that are written -/

/-- A number that is written as a whole number and kept exactly. -/
def IsExactNumber : Number → Prop
  | .natural n => n ≤ Number.maxNatural
  | .negative n => 0 < n ∧ n ≤ Number.maxNegative
  | .real _ => False

theorem isDigit_of_mem_toDigits {n : Nat} {c : Char} (h : c ∈ Nat.toDigits 10 n) :
    c.isDigit = true :=
  Nat.isDigit_of_mem_toDigits (by decide) (by decide) h

/-- A whole number of several digits does not begin with a zero. -/
theorem head?_toDigits_ne_zero {n : Nat} (hn : 0 < n) : (Nat.toDigits 10 n).head? ≠ some '0' := by
  induction n using Nat.strongRecOn with
  | ind n ih =>
    by_cases hlt : n < 10
    · rw [Nat.toDigits_of_lt_base hlt]
      interval_cases n <;> decide
    · have hfirst := ih (n / 10) (by omega) (by omega)
      rw [Nat.toDigits_of_base_le (by decide) (by omega), List.head?_append]
      cases hhead : (Nat.toDigits 10 (n / 10)).head? with
      | none => exact absurd (List.head?_eq_none_iff.1 hhead) Nat.toDigits_ne_nil
      | some c =>
        rw [hhead] at hfirst
        exact hfirst

theorem not_leading_zero (n : Nat) :
    ((Nat.toDigits 10 n).head? == some '0' && decide ((Nat.toDigits 10 n).length > 1)) = false := by
  rcases Nat.eq_zero_or_pos n with rfl | hn
  · rfl
  · have hhead := head?_toDigits_ne_zero hn
    simp [hhead]

theorem toNumber?_natural {n : Nat} (h : n ≤ Number.maxNatural) :
    (⟨false, Nat.toDigits 10 n, none, none⟩ : Numeral).toNumber? = some (.natural n) := by
  have hvalue : (Nat.toDigits 10 n).foldl (fun a d => 10 * a + (d.toNat - '0'.toNat)) 0 = n :=
    Nat.ofDigitChars_ten_toDigits
  unfold Numeral.toNumber?
  simp only [hvalue]
  rw [if_neg Bool.false_ne_true, if_neg (by omega)]

theorem toNumber?_negative {n : Nat} (hpos : 0 < n) (h : n ≤ Number.maxNegative) :
    (⟨true, Nat.toDigits 10 n, none, none⟩ : Numeral).toNumber? = some (.negative n) := by
  have hvalue : (Nat.toDigits 10 n).foldl (fun a d => 10 * a + (d.toNat - '0'.toNat)) 0 = n :=
    Nat.ofDigitChars_ten_toDigits
  have hkept : ¬ (n == 0 || decide (n > Number.maxNegative)) = true := by
    simp only [Bool.or_eq_true, beq_iff_eq, decide_eq_true_eq]
    omega
  unfold Numeral.toNumber?
  simp only [hvalue]
  rw [if_pos trivial, if_neg hkept]

theorem toList_toText_natural (n : Nat) :
    (Number.natural n).toText.toList = Nat.toDigits 10 n := by
  show (toString n).toList = _
  rw [Nat.toString_eq_repr, Nat.toList_repr]

theorem toList_toText_negative (n : Nat) :
    (Number.negative n).toText.toList = '-' :: Nat.toDigits 10 n := by
  show ("-" ++ toString n).toList = _
  rw [String.toList_append, Nat.toString_eq_repr, Nat.toList_repr]
  rfl

/-- A number that is kept exactly is written as it is read. -/
theorem exists_numeral_toText {n : Number} (h : IsExactNumber n) :
    ∃ numeral : Numeral, numeral.IsText n.toText.toList ∧ numeral.toNumber? = some n := by
  have hdigits : ∀ n, AreDigits (Nat.toDigits 10 n) := fun n =>
    ⟨Nat.toDigits_ne_nil, fun c hc => isDigit_of_mem_toDigits hc⟩
  have hzero : ∀ n, (Nat.toDigits 10 n).head? = some '0' → (Nat.toDigits 10 n).length ≤ 1 :=
    fun n => (leading_zero_eq_false_iff _).1 (not_leading_zero n)
  cases n with
  | natural n =>
    refine ⟨⟨false, Nat.toDigits 10 n, none, none⟩, ⟨hdigits n, hzero n, [], [], .none, .none, ?_⟩,
      toNumber?_natural h⟩
    rw [toList_toText_natural, List.append_nil, List.append_nil]
    rfl
  | negative n =>
    refine ⟨⟨true, Nat.toDigits 10 n, none, none⟩, ⟨hdigits n, hzero n, [], [], .none, .none, ?_⟩,
      toNumber?_negative h.1 h.2⟩
    rw [toList_toText_negative, List.append_nil, List.append_nil]
    rfl
  | real x => exact h.elim

end Rubric.Json
