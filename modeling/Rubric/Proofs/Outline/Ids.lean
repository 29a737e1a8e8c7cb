/-
  Rubric.Proofs.Outline.Ids

  When the ids of an outline are distinct.

  A section is named by the slug of its heading, and by the slug with a running
  number if the slug was there before. Numbered ids never meet each other: a
  number has no hyphen, so an id is cut into slug and number in one way only.
  But a heading can spell out a numbered id by itself. The ids are distinct
  exactly when no slug among the headings is the numbered form of another one
  that occurs often enough to reach that number.
-/
import Rubric.Markdown.Blocks
import Rubric.Proofs.Outline.Assembled

namespace Rubric

namespace Slug

/-! ## Numbered slugs -/

/-- The id of a heading whose slug was there `n` times before. -/
def numbered (slug : String) : Nat → String
  | 0 => slug
  | n + 1 => s!"{slug}-{n + 1}"

theorem next_eq (seen : List String) (text : String) :
    next seen text = numbered (ofHeading text) (seen.count (ofHeading text)) := by
  rw [next]
  cases seen.count (ofHeading text) <;> rfl

theorem numbered_of_pos {n : Nat} (hn : 0 < n) (slug : String) :
    numbered slug n = s!"{slug}-{n}" := by
  cases n with
  | zero => omega
  | succ n => rfl

theorem toList_numbered {n : Nat} (hn : 0 < n) (slug : String) :
    (numbered slug n).toList = slug.toList ++ '-' :: Nat.toDigits 10 n := by
  rw [numbered_of_pos hn]
  show (slug ++ "-" ++ toString n).toList = slug.toList ++ (['-'] ++ Nat.toDigits 10 n)
  rw [String.toList_append, String.toList_append, Nat.toString_eq_repr, Nat.toList_repr,
    List.append_assoc]
  rfl

/-- Cutting at the last hyphen gives back what was joined there. -/
theorem append_hyphen_inj {front front' back back' : List Char} (hback : '-' ∉ back)
    (hback' : '-' ∉ back') (h : front ++ '-' :: back = front' ++ '-' :: back') :
    front = front' ∧ back = back' := by
  rw [List.append_eq_append_iff] at h
  -- If the cuts were at different places, one back would hold the hyphen of the other cut.
  rcases h with ⟨middle, hfront, hmiddle⟩ | ⟨middle, hfront, hmiddle⟩
  · cases middle with
    | nil => exact ⟨by simpa using hfront.symm, by simpa using hmiddle⟩
    | cons c middle =>
      obtain ⟨-, rfl⟩ := List.cons.inj hmiddle
      simp at hback
  · cases middle with
    | nil => exact ⟨by simpa using hfront, by simpa using hmiddle.symm⟩
    | cons c middle =>
      obtain ⟨-, rfl⟩ := List.cons.inj hmiddle
      simp at hback'

theorem hyphen_notMem_toDigits (n : Nat) : '-' ∉ Nat.toDigits 10 n := by
  intro hmem
  have hdigit : '-'.isDigit = true := Nat.isDigit_of_mem_toDigits (by decide) (by decide) hmem
  exact absurd hdigit (by decide)

/-- Slug and number of a numbered id are determined by it. -/
theorem numbered_inj {slug slug' : String} {n m : Nat} (hn : 0 < n) (hm : 0 < m)
    (h : numbered slug n = numbered slug' m) : slug = slug' ∧ n = m := by
  have hlists := congrArg String.toList h
  rw [toList_numbered hn, toList_numbered hm] at hlists
  obtain ⟨hslug, hdigits⟩ :=
    append_hyphen_inj (hyphen_notMem_toDigits n) (hyphen_notMem_toDigits m) hlists
  refine ⟨String.toList_injective hslug, ?_⟩
  calc n = Nat.ofDigitChars 10 (Nat.toDigits 10 n) 0 := Nat.ofDigitChars_ten_toDigits.symm
    _ = Nat.ofDigitChars 10 (Nat.toDigits 10 m) 0 := by rw [hdigits]
    _ = m := Nat.ofDigitChars_ten_toDigits

/-! ## Ids in a row -/

/-- The ids given one after another to headings with some texts, after headings with the
    slugs `seen`. -/
def ids (seen : List String) : List String → List String
  | [] => []
  | text :: rest => next seen text :: ids (ofHeading text :: seen) rest

/-- The id at a place counts the slugs before it. -/
theorem getElem?_ids (texts : List String) (k : Nat) :
    (ids [] texts)[k]? = (texts.map ofHeading)[k]?.map fun slug =>
      numbered slug (((texts.map ofHeading).take k).count slug) := by
  suffices hgeneral : ∀ seen, (ids seen texts)[k]? = (texts.map ofHeading)[k]?.map fun slug =>
      numbered slug (((texts.map ofHeading).take k).count slug + seen.count slug) by
    simpa using hgeneral []
  induction texts generalizing k with
  | nil => simp [ids]
  | cons text rest ih =>
    intro seen
    cases k with
    | zero => simp [ids, next_eq]
    | succ k =>
      -- The first slug moves from the list to those that were seen.
      rw [ids, List.getElem?_cons_succ, ih]
      simp only [List.map_cons, List.getElem?_cons_succ, List.take_succ_cons, List.count_cons]
      congr 1
      funext slug
      congr 1
      omega

/-- A value that occurs more than `n` times occurs somewhere after exactly `n` times. -/
theorem exists_count_take_eq {slugs : List String} {slug : String} {n : Nat}
    (hn : n < slugs.count slug) :
    ∃ k, slugs[k]? = some slug ∧ (slugs.take k).count slug = n := by
  induction slugs generalizing n with
  | nil => simp at hn
  | cons first rest ih =>
    by_cases hfirst : first = slug
    · subst hfirst
      cases n with
      | zero => exact ⟨0, rfl, rfl⟩
      | succ n =>
        rw [List.count_cons_self, Nat.add_lt_add_iff_right] at hn
        obtain ⟨k, hk, hcount⟩ := ih hn
        exact ⟨k + 1, hk, by rw [List.take_succ_cons, List.count_cons_self, hcount]⟩
    · rw [List.count_cons_of_ne hfirst] at hn
      obtain ⟨k, hk, hcount⟩ := ih hn
      exact ⟨k + 1, hk, by rw [List.take_succ_cons, List.count_cons_of_ne hfirst, hcount]⟩

/-- Of two places with the same value the later one has more of it before. -/
theorem count_take_lt {slugs : List String} {slug : String} {i j : Nat}
    (hi : slugs[i]? = some slug) (hij : i < j) :
    (slugs.take i).count slug < (slugs.take j).count slug := by
  have hstep : (slugs.take (i + 1)).count slug = (slugs.take i).count slug + 1 := by
    rw [List.take_add_one, hi]
    simp
  have hle : (slugs.take (i + 1)).count slug ≤ (slugs.take j).count slug :=
    (List.take_sublist_take_left hij).count_le slug
  omega

theorem count_take_lt_count {slugs : List String} {slug : String} {k : Nat}
    (hk : slugs[k]? = some slug) : (slugs.take k).count slug < slugs.count slug := by
  have hlt := count_take_lt hk (List.getElem?_eq_some_iff.1 hk).1
  rwa [List.take_length] at hlt

/-- Two equal ids at different places are the slug of one heading and the numbered slug of
    the other. -/
theorem exists_numbered_mem_of_ids_eq {texts : List String} {i j : Nat} {id : String}
    (hij : i < j) (hi : (ids [] texts)[i]? = some id) (hj : (ids [] texts)[j]? = some id) :
    ∃ slug n, 0 < n ∧ n < (texts.map ofHeading).count slug ∧
      s!"{slug}-{n}" ∈ texts.map ofHeading := by
  rw [getElem?_ids] at hi hj
  obtain ⟨slug, hslug, hid⟩ := Option.map_eq_some_iff.1 hi
  obtain ⟨slug', hslug', hid'⟩ := Option.map_eq_some_iff.1 hj
  have hlast := count_take_lt_count hslug
  have hlast' := count_take_lt_count hslug'
  generalize hn : ((texts.map ofHeading).take i).count slug = n at hid hlast
  generalize hm : ((texts.map ofHeading).take j).count slug' = m at hid' hlast'
  rcases Nat.eq_zero_or_pos n with rfl | hnpos
  · rcases Nat.eq_zero_or_pos m with rfl | hmpos
    · -- Two plain slugs: the later one would have been there before.
      obtain rfl : slug = slug' := hid.trans hid'.symm
      have hlt := count_take_lt hslug hij
      omega
    · refine ⟨slug', m, hmpos, hlast', ?_⟩
      rw [← numbered_of_pos hmpos, hid', ← hid]
      exact List.mem_of_getElem? hslug
  · rcases Nat.eq_zero_or_pos m with rfl | hmpos
    · refine ⟨slug, n, hnpos, hlast, ?_⟩
      rw [← numbered_of_pos hnpos, hid, ← hid']
      exact List.mem_of_getElem? hslug'
    · -- Two numbered slugs: the same slug would have been there equally often at both places.
      obtain ⟨rfl, rfl⟩ := numbered_inj hnpos hmpos (hid.trans hid'.symm)
      have hlt := count_take_lt hslug hij
      omega

/-- The ids given in a row are distinct exactly when no slug is the numbered form of a slug
    that is repeated up to that number. -/
theorem ids_nodup_iff (texts : List String) :
    (ids [] texts).Nodup ↔
      ∀ slug n, 0 < n → n < (texts.map ofHeading).count slug →
        s!"{slug}-{n}" ∉ texts.map ofHeading := by
  constructor
  · intro hnodup slug n hn hcount hmem
    -- The repeated heading and the first one that spells out its id.
    obtain ⟨j, hj, hjcount⟩ := exists_count_take_eq hcount
    obtain ⟨i, hi, hicount⟩ := exists_count_take_eq (List.count_pos_iff.2 hmem)
    have hjid : (ids [] texts)[j]? = some s!"{slug}-{n}" := by
      rw [getElem?_ids, hj, Option.map_some, hjcount, numbered_of_pos hn]
    have hiid : (ids [] texts)[i]? = some s!"{slug}-{n}" := by
      rw [getElem?_ids, hi, Option.map_some, hicount, numbered]
    have hlt : i < (ids [] texts).length := (List.getElem?_eq_some_iff.1 hiid).1
    obtain rfl : i = j := (List.getElem?_inj hlt hnodup).1 (hiid.trans hjid.symm)
    obtain hslug : s!"{slug}-{n}" = slug := Option.some.inj (hi.symm.trans hj)
    rw [hslug] at hicount
    omega
  · intro hfree
    rw [List.Nodup, List.pairwise_iff_getElem]
    intro i j hi hj hij heq
    obtain ⟨slug, n, hn, hcount, hmem⟩ := exists_numbered_mem_of_ids_eq hij
      (List.getElem?_eq_getElem hi) (heq ▸ List.getElem?_eq_getElem hj)
    exact hfree slug n hn hcount hmem

end Slug

namespace Fold

/-! ## Ids in an outline -/

theorem foldl_addBlock_id (s : Section) (blocks : List Block) :
    (blocks.foldl addBlock s).id = s.id := by
  induction blocks generalizing s with
  | nil => rfl
  | cons b rest ih =>
    rw [List.foldl_cons, ih]
    cases b <;> rfl

theorem settle_id (source : List Char) (s : Section) : (settle source s).id = s.id := by
  rw [settle_eq]

theorem assemble_id (source : List Char) (seen : List String) (h : Heading)
    (blocks : List Block) (children : List Section) :
    (assemble source seen h blocks children).id = Slug.next seen h.content := by
  rw [assemble, settle_id]
  exact foldl_addBlock_id (opened seen h) blocks

/-- The texts of the headings among some blocks. -/
def headingTexts (blocks : List Block) : List String :=
  (headingsOf blocks).map Heading.content

theorem headingTexts_cons_heading (h : Heading) (rest : List Block) :
    headingTexts (.heading h :: rest) = h.content :: headingTexts rest := rfl

theorem assembled_ids (source : List Char) (seen : List String) (blocks : List Block) :
    (assembled source seen blocks).map Section.id = Slug.ids seen (headingTexts blocks) := by
  induction blocks generalizing seen with
  | nil => rfl
  | cons b rest ih =>
    cases hb : b.heading? with
    | none =>
      rw [assembled_cons_of_heading?_eq_none source seen hb, ih, headingTexts, headingTexts,
        headingsOf_cons_of_heading?_eq_none hb]
    | some h =>
      obtain rfl := Block.eq_heading hb
      rw [assembled_cons_heading, List.map_cons, ih, sectionAt, assemble_id,
        headingTexts_cons_heading, Slug.ids]
      rfl

/-- Walking over the sections of some blocks meets the ids given to their headings one
    after another. -/
theorem walkAll_ids (source : List Char) (seen : List String) (blocks : List Block)
    (parent? : Option Nat) (place : Nat) :
    (walkAll parent? place (sectionsOf source seen blocks)).map (fun entry => entry.2.id)
      = Slug.ids seen (headingTexts blocks) := by
  rw [← assembled_ids source, ← map_snd_walkAll_sectionsOf source seen blocks parent? place,
    List.map_map]
  rfl

/-- **When the ids of an outline are distinct.** The sections of an outline get the ids that
    its headings are given in order. No two of them are equal if and only if no heading has a
    slug that is another one with a number that the repetitions of that other slug reach. -/
theorem document_ids_nodup_iff (source : String) (blocks : List Block) :
    let sectionIds := (walkAll none 0 (document source blocks).sections).map (·.2.id)
    let slugs := (headingTexts blocks).map Slug.ofHeading
    sectionIds = Slug.ids [] (headingTexts blocks) ∧
      (sectionIds.Nodup ↔
        ∀ slug n, 0 < n → n < slugs.count slug → s!"{slug}-{n}" ∉ slugs) := by
  intro sectionIds slugs
  have hids : sectionIds = Slug.ids [] (headingTexts blocks) := by
    show (walkAll none 0 (document source blocks).sections).map (·.2.id) = _
    rw [document_sections]
    exact walkAll_ids source.toList [] blocks none 0
  refine ⟨hids, ?_⟩
  rw [hids]
  exact Slug.ids_nodup_iff (headingTexts blocks)

/-- A heading that spells out the id of a repeated one before it gets the same id. -/
theorem repeated_heading_shares_id :
    let outline := Markdown.outline "# A\n\n# A\n\n# A 1\n"
    let sectionIds := (walkAll none 0 outline.sections).map (·.2.id)
    sectionIds = ["a", "a-1", "a-1"] ∧ ¬ sectionIds.Nodup ∧
      ¬ (Slug.ids [] ["A", "A", "A 1"]).Nodup := by
  decide +kernel

end Fold

end Rubric
