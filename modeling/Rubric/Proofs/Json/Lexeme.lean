/-
  Rubric.Proofs.Json.Lexeme

  Space and strings: their texts, and that exactly these are read.

  A string is written in pieces, one for each character or code, and ends at its closing
  quotation mark whatever follows. Two codes may make one character, and half of such a
  pair without the other leaves the string without a value. The writers write a string in
  one of these ways.
-/
import Rubric.Json.Draft
import Rubric.Json.Writer
import Mathlib.Data.List.TakeWhile
import Mathlib.Tactic.IntervalCases

namespace Rubric.Json

/-! ## Space -/

/-- Characters that mean nothing between the parts of a text. -/
def IsGap (cs : List Char) : Prop :=
  ∀ c ∈ cs, isSpace c = true

theorem isGap_nil : IsGap [] := List.forall_mem_nil _

theorem skipSpace_gap_append {gap : List Char} (h : IsGap gap) (cs : List Char) :
    skipSpace (gap ++ cs) = skipSpace cs :=
  List.dropWhile_append_of_pos h

theorem skipSpace_cons {c : Char} (h : isSpace c = false) (cs : List Char) :
    skipSpace (c :: cs) = c :: cs :=
  List.dropWhile_cons_of_neg (by rw [h]; exact Bool.false_ne_true)

theorem exists_gap (cs : List Char) : ∃ gap, IsGap gap ∧ cs = gap ++ skipSpace cs :=
  ⟨cs.takeWhile isSpace, fun _ hc => List.mem_takeWhile_imp hc,
    List.takeWhile_append_dropWhile.symm⟩

/-! ## Strings -/

/-- The four digits write a number in hexadecimal. -/
inductive IsCode : List Char → Nat → Prop
  | four {a b c d : Char} {w x y z : Nat} (ha : Unicode.hexDigit? a = some w)
      (hb : Unicode.hexDigit? b = some x) (hc : Unicode.hexDigit? c = some y)
      (hd : Unicode.hexDigit? d = some z) :
      IsCode [a, b, c, d] (4096 * w + 256 * x + 16 * y + z)

theorem hexFour_eq_ok_iff {cs rest : List Char} {n : Nat} :
    hexFour cs = .ok (n, rest) ↔ ∃ digits, IsCode digits n ∧ cs = digits ++ rest := by
  constructor
  · intro h
    unfold hexFour at h
    split at h
    · split at h
      next ha hb hc hd =>
        obtain ⟨rfl, rfl⟩ := Prod.mk.inj (Except.ok.inj h)
        exact ⟨_, .four ha hb hc hd, rfl⟩
      next => cases h
    · cases h
  · rintro ⟨digits, ⟨ha, hb, hc, hd⟩, rfl⟩
    simp [hexFour, ha, hb, hc, hd]

/-- What stands between the quotation marks of a string: characters, and codes, of which two
    may stand for one character. -/
inductive Piece where
  | char (c : Char)
  | code (n : Nat)

/-- The characters write a piece of a string: a character as it is or behind a reverse
    solidus, or a code. -/
inductive Piece.IsWritten : Piece → List Char → Prop
  | plain {c : Char} : c ≠ '"' → c ≠ '\\' → 0x20 ≤ c.toNat → IsWritten (.char c) [c]
  | short {e c : Char} : shortEscape? e = some c → IsWritten (.char c) ['\\', e]
  | code {digits : List Char} {n : Nat} : IsCode digits n →
      IsWritten (.code n) ('\\' :: 'u' :: digits)

/-- The characters write pieces one after another. -/
inductive AreWritten : List Piece → List Char → Prop
  | nil : AreWritten [] []
  | cons {p : Piece} {first : List Char} {ps : List Piece} {others : List Char} :
      p.IsWritten first → AreWritten ps others → AreWritten (p :: ps) (first ++ others)

/-- The code is the first half of a pair. -/
def IsHigh (n : Nat) : Prop := 0xd800 ≤ n ∧ n ≤ 0xdbff

/-- The code is the second half of a pair. -/
def IsLow (n : Nat) : Prop := 0xdc00 ≤ n ∧ n ≤ 0xdfff

instance (n : Nat) : Decidable (IsHigh n) := inferInstanceAs (Decidable (_ ∧ _))

instance (n : Nat) : Decidable (IsLow n) := inferInstanceAs (Decidable (_ ∧ _))

/-- The character of a pair of codes. -/
def paired (high low : Nat) : Char :=
  Char.ofNat (0x10000 + 1024 * (high - 0xd800) + (low - 0xdc00))

/-- The characters that pieces stand for, unless one is half of a pair without the other. -/
def decode : List Piece → Option (List Char)
  | [] => some []
  | .char c :: ps => (decode ps).map (c :: ·)
  | .code n :: ps =>
    if IsLow n then none
    else if IsHigh n then
      match ps with
      | .code m :: ps => if IsLow m then (decode ps).map (paired n m :: ·) else none
      | _ => none
    else (decode ps).map (Char.ofNat n :: ·)


theorem IsHigh.not_isLow {n : Nat} (h : IsHigh n) : ¬ IsLow n := by
  unfold IsHigh at h
  unfold IsLow
  omega

theorem decode_low {n : Nat} (hlow : IsLow n) (ps : List Piece) :
    decode (.code n :: ps) = none := by
  unfold decode
  rw [if_pos hlow]

theorem decode_pair {n m : Nat} (hhigh : IsHigh n) (hm : IsLow m) (ps : List Piece) :
    decode (.code n :: .code m :: ps) = (decode ps).map (paired n m :: ·) := by
  conv_lhs => unfold decode
  rw [if_neg hhigh.not_isLow, if_pos hhigh]
  exact if_pos hm

theorem decode_half {n : Nat} (hhigh : IsHigh n) {ps : List Piece}
    (halone : ∀ m qs, ps = .code m :: qs → ¬ IsLow m) : decode (.code n :: ps) = none := by
  unfold decode
  rw [if_neg hhigh.not_isLow, if_pos hhigh]
  split
  next m qs => exact if_neg (halone m qs rfl)
  next => rfl

theorem decode_code {n : Nat} (hlow : ¬ IsLow n) (hhigh : ¬ IsHigh n) (ps : List Piece) :
    decode (.code n :: ps) = (decode ps).map (Char.ofNat n :: ·) := by
  conv_lhs => unfold decode
  rw [if_neg hlow, if_neg hhigh]

section
variable {fuel : Nat} {acc : List Char} {whole : Bool} {rest : List Char}

theorem readString_close :
    readString (fuel + 1) acc whole ('"' :: rest)
      = .ok (if whole then some (String.ofList acc.reverse) else none, rest) := by
  rw [readString.eq_def]
  simp

theorem readString_plain {c : Char} (hquote : c ≠ '"') (hreverse : c ≠ '\\')
    (hcontrol : 0x20 ≤ c.toNat) :
    readString (fuel + 1) acc whole (c :: rest) = readString fuel (c :: acc) whole rest := by
  conv_lhs => unfold readString
  simp [hquote, hreverse, Nat.not_lt.2 hcontrol]

theorem readString_short {e c : Char} (he : shortEscape? e = some c) :
    readString (fuel + 1) acc whole ('\\' :: e :: rest) =
      readString fuel (c :: acc) whole rest := by
  conv_lhs => unfold readString
  rw [if_neg (by decide), if_pos (by decide)]
  split
  next heq => cases heq
  next heq =>
    obtain rfl := (List.cons.inj heq).1
    cases he
  next heq =>
    obtain ⟨rfl, rfl⟩ := List.cons.inj heq
    rw [he]

theorem readString_no_escape {e : Char} (hcode : e ≠ 'u') (he : shortEscape? e = none) :
    readString (fuel + 1) acc whole ('\\' :: e :: rest) = .error .malformed := by
  conv_lhs => unfold readString
  rw [if_neg (by decide), if_pos (by decide)]
  split
  next heq => cases heq
  next heq => exact absurd (List.cons.inj heq).1 hcode
  next heq =>
    obtain ⟨rfl, rfl⟩ := List.cons.inj heq
    rw [he]

theorem readString_no_code {flaw : Flaw} (hread : hexFour rest = .error flaw) :
    readString (fuel + 1) acc whole ('\\' :: 'u' :: rest) = .error flaw := by
  conv_lhs => unfold readString
  simp only [hread]
  rfl

theorem readString_control {c : Char} (hquote : c ≠ '"') (hreverse : c ≠ '\\')
    (hcontrol : c.toNat < 0x20) :
    readString (fuel + 1) acc whole (c :: rest) = .error .malformed := by
  conv_lhs => unfold readString
  simp [hquote, hreverse, hcontrol]

/-- What follows after a code decides how it is taken. -/
theorem readString_of_code {digits : List Char} {n : Nat} (hn : IsCode digits n) :
    readString (fuel + 1) acc whole ('\\' :: 'u' :: (digits ++ rest)) =
      if IsLow n then readString fuel acc false rest
      else if IsHigh n then
        match rest with
        | [] => .error .endOfInput
        | '\\' :: 'u' :: low =>
          match hexFour low with
          | .error flaw => .error flaw
          | .ok (m, low) =>
            if IsLow m then readString fuel (paired n m :: acc) whole low
            else readString fuel acc false rest
        | _ => readString fuel acc false rest
      else readString fuel (Char.ofNat n :: acc) whole rest := by
  have hread : hexFour (digits ++ rest) = .ok (n, rest) := hexFour_eq_ok_iff.2 ⟨_, hn, rfl⟩
  conv_lhs => unfold readString
  simp only [hread, Bool.and_eq_true, decide_eq_true_eq]
  rfl

/-- The first half of a pair alone is passed over, and the string has no value. -/
theorem readString_half {digits : List Char} {n : Nat} (hn : IsCode digits n) (hhigh : IsHigh n)
    (halone : ∀ low m behind, IsCode low m → IsLow m → rest ≠ '\\' :: 'u' :: (low ++ behind))
    {result : Option String × List Char} :
    readString (fuel + 1) acc whole ('\\' :: 'u' :: (digits ++ rest)) = .ok result ↔
      readString fuel acc false rest = .ok result := by
  rw [readString_of_code hn, if_neg hhigh.not_isLow, if_pos hhigh]
  split
  next => cases fuel <;> simp [readString]
  next low =>
    cases hread : hexFour low with
    | error flaw =>
      cases fuel with
      | zero => simp [readString]
      | succ fuel => simp [readString_no_code hread]
    | ok code =>
      obtain ⟨m, behind⟩ := code
      obtain ⟨digits', hm, rfl⟩ := hexFour_eq_ok_iff.1 hread
      have hlow : ¬ IsLow m := fun h => halone digits' m behind hm h rfl
      simp only [if_neg hlow]
  next => exact Iff.rfl

end

/-- A code at the front of a text is one of the pieces that write it. -/
theorem AreWritten.head_of_code {ps : List Piece} {text : List Char} (h : AreWritten ps text)
    {digits behind rest : List Char} {m : Nat} (hm : IsCode digits m)
    (heq : text ++ '"' :: rest = '\\' :: 'u' :: (digits ++ behind)) :
    ∃ qs, ps = .code m :: qs := by
  cases h with
  | nil => exact absurd (List.cons.inj heq).1 (by decide)
  | @cons p first qs others hp hqs =>
    cases hp with
    | plain _ hreverse _ => exact absurd (List.cons.inj heq).1 hreverse
    | short he =>
      obtain rfl := (List.cons.inj (List.cons.inj heq).2).1
      cases he
    | @code digits' n hn =>
      have htail : digits' ++ (others ++ '"' :: rest) = digits ++ behind := by
        simpa using heq
      have hread := hexFour_eq_ok_iff.2 ⟨digits', hn, htail.symm⟩
      rw [hexFour_eq_ok_iff.2 ⟨digits, hm, rfl⟩] at hread
      obtain ⟨rfl, -⟩ := Prod.mk.inj (Except.ok.inj hread)
      exact ⟨qs, rfl⟩

/-- What is read of a string, after the characters before, which are reversed: nothing once
    half of a pair was met. -/
def taken (acc : List Char) (whole : Bool) (ps : List Piece) : Option String :=
  if whole then (decode ps).map fun cs => String.ofList (acc.reverse ++ cs) else none

theorem taken_map (acc : List Char) (whole : Bool) (c : Char) {ps qs : List Piece}
    (h : decode ps = (decode qs).map (c :: ·)) :
    taken acc whole ps = taken (c :: acc) whole qs := by
  simp [taken, h, Function.comp_def]

theorem taken_none (acc : List Char) (whole : Bool) {ps : List Piece} (h : decode ps = none)
    (acc' : List Char) (qs : List Piece) : taken acc whole ps = taken acc' false qs := by
  simp [taken, h]

/-- **A string is read to its closing quotation mark**, whatever pieces it is written in. -/
theorem readString_written {ps : List Piece} {text : List Char} (h : AreWritten ps text)
    {fuel : Nat} (hfuel : ps.length < fuel) (acc : List Char) (whole : Bool) (rest : List Char) :
    readString fuel acc whole (text ++ '"' :: rest) = .ok (taken acc whole ps, rest) := by
  induction hlength : ps.length using Nat.strongRecOn generalizing ps text fuel acc whole with
  | ind length ih =>
    subst hlength
    obtain ⟨fuel, rfl⟩ : ∃ n, fuel = n + 1 := ⟨fuel - 1, by omega⟩
    cases h with
    | nil => simp [readString_close, taken, decode]
    | @cons p first qs others hp hqs =>
      rw [List.length_cons] at hfuel
      have hothers : ∀ acc whole, readString fuel acc whole (others ++ '"' :: rest)
          = .ok (taken acc whole qs, rest) := fun acc whole =>
        ih qs.length (by simp) hqs (by omega) acc whole rfl
      cases hp with
      | plain hquote hreverse hcontrol =>
        rw [List.append_assoc, List.singleton_append, readString_plain hquote hreverse hcontrol,
          hothers, taken_map acc whole _ rfl]
      | short he =>
        rw [List.append_assoc, List.cons_append, List.singleton_append, readString_short he,
          hothers, taken_map acc whole _ rfl]
      | @code digits n hn =>
        simp only [List.cons_append, List.append_assoc]
        by_cases hlow : IsLow n
        · rw [readString_of_code hn, if_pos hlow, hothers,
            taken_none acc whole (decode_low hlow qs)]
        by_cases hhigh : IsHigh n
        · by_cases hpair : ∃ m rs, qs = .code m :: rs ∧ IsLow m
          · obtain ⟨m, rs, rfl, hm⟩ := hpair
            rw [List.length_cons] at hfuel
            cases hqs with
            | @cons _ _ _ behind hcode hrs =>
              cases hcode with
              | @code low _ hcode =>
                have hnext : hexFour (low ++ (behind ++ '"' :: rest)) = .ok (m, _) :=
                  hexFour_eq_ok_iff.2 ⟨_, hcode, rfl⟩
                have hbehind : readString fuel (paired n m :: acc) whole (behind ++ '"' :: rest)
                    = .ok (taken (paired n m :: acc) whole rs, rest) :=
                  ih rs.length (by simp only [List.length_cons]; omega) hrs (by omega) _ whole rfl
                rw [readString_of_code hn, if_neg hlow, if_pos hhigh,
                  taken_map acc whole _ (decode_pair hhigh hm rs)]
                simp only [List.cons_append, List.append_assoc, hnext, if_pos hm]
                exact hbehind
          · have halone : ∀ m rs, qs = .code m :: rs → ¬ IsLow m := fun m rs heq hm =>
              hpair ⟨m, rs, heq, hm⟩
            rw [taken_none acc whole (decode_half hhigh halone) acc qs]
            refine (readString_half hn hhigh ?_).2 (hothers acc false)
            intro low m behind hcode hm heq
            obtain ⟨rs, rfl⟩ := hqs.head_of_code hcode heq
            exact halone m rs rfl hm
        · rw [readString_of_code hn, if_neg hlow, if_neg hhigh, hothers,
            taken_map acc whole _ (decode_code hlow hhigh qs)]

theorem AreWritten.length_le {ps : List Piece} {text : List Char} (h : AreWritten ps text) :
    ps.length ≤ text.length := by
  induction h with
  | nil => exact Nat.le_refl 0
  | @cons p first ps others hp hps ih =>
    have hone : 0 < first.length := by cases hp <;> simp
    rw [List.length_cons, List.length_append]
    omega

theorem AreWritten.append {ps qs : List Piece} {text others : List Char} (h : AreWritten ps text)
    (h' : AreWritten qs others) : AreWritten (ps ++ qs) (text ++ others) := by
  induction h with
  | nil => exact h'
  | cons hp _ ih =>
    rw [List.append_assoc]
    exact .cons hp ih

theorem Piece.IsWritten.areWritten {p : Piece} {text : List Char} (h : p.IsWritten text) :
    AreWritten [p] text := by
  have hone := AreWritten.cons h .nil
  rwa [List.append_nil] at hone

/-- The text begins with pieces of a string, and reading goes on behind them. -/
def GoesOn (fuel : Nat) (cs : List Char) (result : Option String × List Char) : Prop :=
  ∃ ps text behind acc whole, AreWritten ps text ∧ cs = text ++ behind ∧
    readString fuel acc whole behind = .ok result

section
variable {fuel : Nat} {acc : List Char} {whole : Bool} {result : Option String × List Char}

theorem Piece.IsWritten.goesOn {p : Piece} {first behind : List Char} (hp : p.IsWritten first)
    (h : readString fuel acc whole behind = .ok result) : GoesOn fuel (first ++ behind) result :=
  ⟨[p], first, behind, acc, whole, hp.areWritten, rfl, h⟩

/-- A code is taken by itself or with a second one. -/
theorem goesOn_of_code {digits behind : List Char} {n : Nat} (hn : IsCode digits n)
    (h : readString (fuel + 1) acc whole ('\\' :: 'u' :: (digits ++ behind)) = .ok result) :
    GoesOn fuel ('\\' :: 'u' :: (digits ++ behind)) result := by
  have hcode : (Piece.code n).IsWritten ('\\' :: 'u' :: digits) := .code hn
  by_cases hlow : IsLow n
  · rw [readString_of_code hn, if_pos hlow] at h
    exact hcode.goesOn h
  by_cases hhigh : IsHigh n
  · by_cases hpair : ∃ low m after, IsCode low m ∧ IsLow m ∧
        behind = '\\' :: 'u' :: (low ++ after)
    · obtain ⟨low, m, after, hm, hmlow, rfl⟩ := hpair
      have hnext : hexFour (low ++ after) = .ok (m, after) := hexFour_eq_ok_iff.2 ⟨_, hm, rfl⟩
      rw [readString_of_code hn, if_neg hlow, if_pos hhigh] at h
      simp only [hnext, if_pos hmlow] at h
      exact ⟨_, _, after, _, _, hcode.areWritten.append (Piece.IsWritten.code hm).areWritten,
        by simp, h⟩
    · refine hcode.goesOn ((readString_half hn hhigh ?_).1 h)
      exact fun low m after hm hmlow heq => hpair ⟨low, m, after, hm, hmlow, heq⟩
  · rw [readString_of_code hn, if_neg hlow, if_neg hhigh] at h
    exact hcode.goesOn h

theorem goesOn_of_escape {cs : List Char}
    (h : readString (fuel + 1) acc whole ('\\' :: cs) = .ok result) :
    GoesOn fuel ('\\' :: cs) result := by
  cases cs with
  | nil => cases h
  | cons e cs =>
    by_cases hcode : e = 'u'
    · subst hcode
      cases hread : hexFour cs with
      | error flaw =>
        rw [readString_no_code hread] at h
        cases h
      | ok code =>
        obtain ⟨digits, hn, rfl⟩ := hexFour_eq_ok_iff.1 hread
        exact goesOn_of_code hn h
    · cases hshort : shortEscape? e with
      | none =>
        rw [readString_no_escape hcode hshort] at h
        cases h
      | some c =>
        rw [readString_short hshort] at h
        exact (Piece.IsWritten.short hshort).goesOn h

/-- A string that is read ends at once or begins with pieces. -/
theorem close_or_goesOn {cs : List Char}
    (h : readString (fuel + 1) acc whole cs = .ok result) :
    cs = '"' :: result.2 ∨ GoesOn fuel cs result := by
  cases cs with
  | nil =>
    rw [readString] at h
    cases h
  | cons c cs =>
    by_cases hquote : c = '"'
    · subst hquote
      rw [readString_close] at h
      obtain rfl := Except.ok.inj h
      exact .inl rfl
    by_cases hreverse : c = '\\'
    · subst hreverse
      exact .inr (goesOn_of_escape h)
    by_cases hcontrol : c.toNat < 0x20
    · rw [readString_control hquote hreverse hcontrol] at h
      cases h
    · have hplain : (Piece.char c).IsWritten [c] :=
        .plain hquote hreverse (Nat.not_lt.1 hcontrol)
      rw [readString_plain hquote hreverse (Nat.not_lt.1 hcontrol)] at h
      exact .inr (hplain.goesOn h)

end

/-- What is read as a string is written in pieces, up to the quotation mark. -/
theorem exists_written_of_readString {fuel : Nat} {acc cs : List Char} {whole : Bool}
    {result : Option String × List Char} (h : readString fuel acc whole cs = .ok result) :
    ∃ ps text, AreWritten ps text ∧ cs = text ++ '"' :: result.2 := by
  induction fuel generalizing acc whole cs with
  | zero => cases h
  | succ fuel ih =>
    rcases close_or_goesOn h with rfl | ⟨ps, text, behind, acc', whole', hps, rfl, hread⟩
    · exact ⟨[], [], .nil, rfl⟩
    · obtain ⟨qs, others, hqs, rfl⟩ := ih hread
      exact ⟨ps ++ qs, text ++ others, hps.append hqs, (List.append_assoc _ _ _).symm⟩

/-- The characters are a string with its quotation marks. There is no value if an escape names
    half of a pair. -/
def IsString (s : Option String) (cs : List Char) : Prop :=
  ∃ ps inner, AreWritten ps inner ∧ cs = '"' :: (inner ++ ['"']) ∧
    s = (decode ps).map String.ofList

/-- Behind a quotation mark a string is read exactly where there is one. -/
theorem readString_eq_ok_iff {cs rest : List Char} {s : Option String} :
    readString (cs.length + 1) [] true cs = .ok (s, rest) ↔
      ∃ text, IsString s text ∧ '"' :: cs = text ++ rest := by
  have hwritten : ∀ {ps inner}, AreWritten ps inner → cs = inner ++ '"' :: rest →
      readString (cs.length + 1) [] true cs = .ok ((decode ps).map String.ofList, rest) := by
    rintro ps inner hps rfl
    have hlength := hps.length_le
    rw [readString_written hps (by rw [List.length_append]; omega)]
    simp [taken]
  constructor
  · intro h
    obtain ⟨ps, inner, hps, hcs⟩ := exists_written_of_readString h
    rw [hwritten hps hcs] at h
    obtain ⟨rfl, -⟩ := Prod.mk.inj (Except.ok.inj h)
    exact ⟨_, ⟨ps, inner, hps, rfl, rfl⟩, by simp [hcs]⟩
  · rintro ⟨text, ⟨ps, inner, hps, rfl, rfl⟩, hcs⟩
    exact hwritten hps (by simpa using hcs)

/-! ## Strings that are written -/

/-- A control character is written by its code. -/
theorem isCode_hexDigit {n : Nat} (h : n < 0x20) :
    IsCode ['0', '0', hexDigit (n / 16), hexDigit (n % 16)] n := by
  have hread : hexFour ['0', '0', hexDigit (n / 16), hexDigit (n % 16)] = .ok (n, []) := by
    interval_cases n <;> rfl
  obtain ⟨digits, hcode, hdigits⟩ := hexFour_eq_ok_iff.1 hread
  rwa [hdigits, List.append_nil]

/-- However a character is written inside a string, it is a piece that stands for it. -/
theorem exists_piece_escapeChar (c : Char) :
    ∃ p : Piece, p.IsWritten (escapeChar c) ∧
      ∀ ps, decode (p :: ps) = (decode ps).map (c :: ·) := by
  unfold escapeChar
  -- The characters that have an escape of their own come first.
  iterate 7
    split
    · next h =>
      obtain rfl := eq_of_beq h
      exact ⟨.char _, .short rfl, fun _ => rfl⟩
  split
  · next hcontrol =>
    have hcode : IsCode ['0', '0', hexDigit (c.toNat / 16), hexDigit (c.toNat % 16)] c.toNat :=
      isCode_hexDigit hcontrol
    have hlow : ¬ IsLow c.toNat := fun h => by
      have := h.1
      omega
    have hhigh : ¬ IsHigh c.toNat := fun h => by
      have := h.1
      omega
    refine ⟨.code c.toNat, .code hcode, fun ps => ?_⟩
    rw [decode_code hlow hhigh, Char.ofNat_toNat]
  · next hquote hreverse _ _ _ _ _ hcontrol =>
    refine ⟨.char c, .plain ?_ ?_ (Nat.not_lt.1 hcontrol), fun _ => rfl⟩
    · simpa using hquote
    · simpa using hreverse

theorem exists_written_flatMap_escapeChar (cs : List Char) :
    ∃ ps, AreWritten ps (cs.flatMap escapeChar) ∧ decode ps = some cs := by
  induction cs with
  | nil => exact ⟨[], .nil, rfl⟩
  | cons c cs ih =>
    obtain ⟨p, hp, hdecode⟩ := exists_piece_escapeChar c
    obtain ⟨ps, hps, hcs⟩ := ih
    exact ⟨p :: ps, .cons hp hps, by rw [hdecode, hcs, Option.map_some]⟩

theorem isString_quote (s : String) : IsString (some s) (quote s) := by
  obtain ⟨ps, hps, hdecode⟩ := exists_written_flatMap_escapeChar s.toList
  exact ⟨ps, _, hps, rfl, by rw [hdecode, Option.map_some, String.ofList_toList]⟩

end Rubric.Json
