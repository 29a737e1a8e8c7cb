/-
  Rubric.Proofs.Path

  The names of a path from the root, whatever slashes it is spelled with.

  A path from the root puts every part of it behind a slash, and parts may be
  empty: they come from slashes in a row and from slashes at the end. `spell` is
  the text that parts make, and the functions on paths are computed from the
  parts, the last one first, since paths are taken apart from their end.

  The names of a path are its parts that are not empty, but the text of a path
  has its slashes too. `squeeze` leaves one of the slashes in a row, and a path
  with no slash at its end is squeezed to the one plain spelling of its names
  (`IsPlain.squeeze_eq`).

  `parent?` and `join` go from names to names: the path before the last name has
  the other names (`IsPlain.exists_above`), and a name that is joined to a path
  is its last one (`IsPlain.join`). Two dots are a name like others.
-/
import Mathlib.Data.List.Destutter
import Mathlib.Data.List.DropRight
import Mathlib.Tactic.Tauto
import Rubric.FileTree

namespace Rubric

namespace Path

/-! ## Slashes in a row -/

/-- A text with one slash wherever it has slashes in a row. -/
def squeezeChars (cs : List Char) : List Char :=
  cs.destutter fun a b => a ≠ '/' ∨ b ≠ '/'

/-- A path with one slash wherever it has slashes in a row. -/
def squeeze (path : String) : String :=
  String.ofList (squeezeChars path.toList)

@[simp] theorem toList_squeeze (path : String) :
    (squeeze path).toList = squeezeChars path.toList := by
  simp [squeeze]

@[simp] theorem squeezeChars_nil : squeezeChars [] = [] := rfl

theorem squeezeChars_cons (c : Char) (cs : List Char) :
    squeezeChars (c :: cs) =
      if c = '/' ∧ cs.head? = some '/' then squeezeChars cs else c :: squeezeChars cs := by
  cases cs with
  | nil => simp [squeezeChars]
  | cons d ds =>
    simp only [squeezeChars, List.destutter_cons_cons, List.head?_cons, Option.some.injEq]
    by_cases hslash : c = '/' ∧ d = '/'
    · obtain ⟨rfl, rfl⟩ := hslash
      simp [List.destutter]
    · rw [if_pos (by tauto), if_neg hslash]
      rfl

theorem squeezeChars_cons_of_ne {c : Char} (h : c ≠ '/') (cs : List Char) :
    squeezeChars (c :: cs) = c :: squeezeChars cs := by
  rw [squeezeChars_cons, if_neg (by tauto)]

@[simp] theorem head?_squeezeChars (cs : List Char) : (squeezeChars cs).head? = cs.head? := by
  induction cs with
  | nil => rfl
  | cons c cs ih =>
    rw [squeezeChars_cons]
    split
    · next h => rw [ih, h.2, h.1, List.head?_cons]
    · rfl

/-- Two texts are squeezed apart from each other unless slashes meet between them. -/
theorem squeezeChars_append {cs ds : List Char}
    (h : cs.getLast? = some '/' → ds.head? ≠ some '/') :
    squeezeChars (cs ++ ds) = squeezeChars cs ++ squeezeChars ds := by
  induction cs with
  | nil => rfl
  | cons c cs ih =>
    rw [List.cons_append, squeezeChars_cons, squeezeChars_cons]
    cases cs with
    | nil =>
      have hds : ¬ (c = '/' ∧ ds.head? = some '/') := by
        rintro ⟨rfl, hhead⟩
        exact h rfl hhead
      simp [hds]
    | cons d rest =>
      have hrest := ih (by simpa using h)
      by_cases hslash : c = '/' ∧ d = '/'
      · simpa [hslash] using hrest
      · simpa [hslash] using hrest

@[simp] theorem getLast?_squeezeChars (cs : List Char) :
    (squeezeChars cs).getLast? = cs.getLast? := by
  induction cs with
  | nil => rfl
  | cons c cs ih =>
    rw [squeezeChars_cons]
    split
    · next h =>
      obtain ⟨ds, rfl⟩ := List.head?_eq_some_iff.mp h.2
      rw [ih, List.getLast?_cons_cons]
    · rw [List.getLast?_cons, List.getLast?_cons, ih]

@[simp] theorem mem_squeezeChars {c : Char} {cs : List Char} : c ∈ squeezeChars cs ↔ c ∈ cs := by
  induction cs with
  | nil => simp
  | cons d cs ih =>
    rw [squeezeChars_cons]
    split
    · next h =>
      obtain ⟨ds, rfl⟩ := List.head?_eq_some_iff.mp h.2
      rw [ih, h.1]
      simp
    · simp [ih]

/-- A path without slashes in a row has none at its beginning either. -/
theorem squeeze_eq_self_of_isPrefix {path start : String} (h : squeeze path = path)
    (hbegin : start.toList <+: path.toList) : squeeze start = start := by
  have hchars : squeezeChars path.toList = path.toList := by rw [← toList_squeeze, h]
  apply String.toList_injective
  rw [toList_squeeze]
  rw [squeezeChars, List.destutter_eq_self_iff] at *
  exact hchars.prefix hbegin

/-! ## Joining -/

@[simp] theorem isAbsolute_squeeze (path : String) :
    isAbsolute (squeeze path) = isAbsolute path := by
  simp [isAbsolute]

@[simp] theorem isEmpty_squeeze (path : String) : (squeeze path).isEmpty = path.isEmpty := by
  have hhead := head?_squeezeChars path.toList
  rw [Bool.eq_iff_iff, String.isEmpty_iff, String.isEmpty_iff, ← String.toList_eq_nil_iff,
    ← String.toList_eq_nil_iff, toList_squeeze, ← List.head?_eq_none_iff, hhead,
    List.head?_eq_none_iff]

/-- A joined path is squeezed where both paths are: no slashes meet between them. -/
theorem squeeze_join (base path : String) :
    squeeze (join base path) = join (squeeze base) (squeeze path) := by
  by_cases hpath : isAbsolute path = true
  · simp [join, hpath]
  have hhead : path.toList.head? ≠ some '/' := by simpa [isAbsolute] using hpath
  apply String.toList_injective
  simp only [join, isAbsolute_squeeze, hpath, isEmpty_squeeze, toList_squeeze,
    getLast?_squeezeChars]
  by_cases hlast : (base.isEmpty || base.toList.getLast? == some '/') = true
  · simp [hlast, squeezeChars_append fun _ => hhead]
  · have hbase : base.toList.getLast? ≠ some '/' := by simp_all
    have hslash : squeezeChars ('/' :: path.toList) = '/' :: squeezeChars path.toList := by
      rw [squeezeChars_cons, if_neg (by tauto)]
    simp [hlast, squeezeChars_append fun h => absurd h hbase, hslash]

/-- The text of a path that is joined to a directory. -/
theorem toList_join {base path : String} (hbase : base ≠ "") (hpath : isAbsolute path = false) :
    (join base path).toList =
      if base.toList.getLast? = some '/' then base.toList ++ path.toList
      else base.toList ++ '/' :: path.toList := by
  by_cases hlast : base.toList.getLast? = some '/' <;> simp [join, hbase, hpath, hlast]

/-! ## The text that parts make -/

/-- The text of a path from the root: each of its parts behind a slash. -/
def spell (parts : List (List Char)) : List Char :=
  parts.flatMap fun part => '/' :: part

@[simp] theorem spell_nil : spell [] = [] := rfl

@[simp] theorem spell_cons (part : List Char) (parts : List (List Char)) :
    spell (part :: parts) = '/' :: (part ++ spell parts) := rfl

@[simp] theorem spell_append (parts more : List (List Char)) :
    spell (parts ++ more) = spell parts ++ spell more := by
  simp [spell]

/-- A path ends in a slash where its last part is empty. -/
theorem getLast?_spell {parts : List (List Char)} {last : List Char} (h : '/' ∉ last) :
    (spell (parts ++ [last])).getLast? = some '/' ↔ last = [] := by
  rw [spell_append, spell_cons, spell_nil, List.append_nil]
  refine ⟨fun hlast => ?_, fun hempty => by simp [hempty]⟩
  by_contra hne
  have hmem : '/' ∈ last := List.mem_of_getLast? <| by
    rwa [List.getLast?_append_cons, List.getLast?_cons_of_ne_nil hne] at hlast
  exact h hmem

/-- The parts of a path that are not empty. -/
def said (parts : List (List Char)) : List (List Char) := parts.filter fun part => !part.isEmpty

@[simp] theorem said_append (parts more : List (List Char)) :
    said (parts ++ more) = said parts ++ said more := List.filter_append _ _

@[simp] theorem said_cons_nil (parts : List (List Char)) : said ([] :: parts) = said parts := rfl

theorem said_cons {part : List Char} (h : part ≠ []) (parts : List (List Char)) :
    said (part :: parts) = part :: said parts := by
  simp [said, h]

theorem said_singleton {name : List Char} (h : name ≠ []) : said [name] = [name] :=
  said_cons h []

theorem length_said_le (parts : List (List Char)) : (said parts).length ≤ (spell parts).length := by
  induction parts with
  | nil => exact Nat.le_refl 0
  | cons part parts ih =>
    rw [spell_cons, List.length_cons, List.length_append]
    by_cases hpart : part = []
    · rw [hpart, said_cons_nil]
      omega
    · rw [said_cons hpart, List.length_cons]
      omega

/-- Parts that can stand behind slashes, none of which is a dot. -/
def AreParts (parts : List (List Char)) : Prop :=
  ∀ part ∈ parts, '/' ∉ part ∧ part ≠ ['.']

/-- Nothing is squeezed away in a part. -/
theorem squeezeChars_slash_part {part : List Char} (hne : part ≠ []) (h : '/' ∉ part)
    (cs : List Char) : squeezeChars ('/' :: (part ++ cs)) = '/' :: (part ++ squeezeChars cs) := by
  have hpart : ∀ ds : List Char, '/' ∉ ds → squeezeChars (ds ++ cs) = ds ++ squeezeChars cs := by
    intro ds hds
    induction ds with
    | nil => rfl
    | cons d ds ih =>
      rw [List.mem_cons, not_or] at hds
      rw [List.cons_append, squeezeChars_cons_of_ne (Ne.symm hds.1), ih hds.2, List.cons_append]
  have hhead : (part ++ cs).head? ≠ some '/' := by
    obtain ⟨c, ds, rfl⟩ := List.exists_cons_of_ne_nil hne
    simp only [List.mem_cons, not_or] at h
    simpa using Ne.symm h.1
  rw [squeezeChars_cons, if_neg (by tauto), hpart part h]

/-- What is squeezed away is the slashes of the empty parts. -/
theorem squeezeChars_spell {parts : List (List Char)} {name : List Char}
    (h : ∀ part ∈ parts ++ [name], '/' ∉ part) (hname : name ≠ []) :
    squeezeChars (spell (parts ++ [name])) = spell (said parts ++ [name]) := by
  induction parts with
  | nil => exact squeezeChars_slash_part hname (h name (by simp)) []
  | cons part parts ih =>
    have hrest := ih fun p hp => h p (List.mem_cons_of_mem _ hp)
    by_cases hpart : part = []
    · have hhead : (spell (parts ++ [name])).head? = some '/' := by cases parts <;> simp
      rw [List.cons_append, spell_cons, hpart, List.nil_append, squeezeChars_cons,
        if_pos ⟨rfl, hhead⟩, hrest, said_cons_nil]
    · rw [List.cons_append, spell_cons, squeezeChars_slash_part hpart (h part (by simp)), hrest,
        said_cons hpart, List.cons_append, spell_cons]

theorem exists_spell (cs : List Char) :
    ∃ part parts, cs = part ++ spell parts ∧ ∀ p ∈ part :: parts, '/' ∉ p := by
  induction cs with
  | nil => exact ⟨[], [], rfl, by simp⟩
  | cons c cs ih =>
    obtain ⟨part, parts, rfl, hparts⟩ := ih
    by_cases hc : c = '/'
    · exact ⟨[], part :: parts, by simp [hc], List.forall_mem_cons.mpr ⟨by simp, hparts⟩⟩
    · have hmore := List.forall_mem_cons.mp hparts
      refine ⟨c :: part, parts, rfl, List.forall_mem_cons.mpr ⟨?_, hmore.2⟩⟩
      simpa [Ne.symm hc] using hmore.1

theorem splitOn_spell {parts : List (List Char)} (h : ∀ part ∈ parts, '/' ∉ part) :
    (spell parts).splitOn '/' = [] :: parts := by
  induction parts using List.reverseRecOn with
  | nil => rfl
  | append_singleton parts part ih =>
    have hpart : part.splitOn '/' = [part] :=
      List.splitOn_eq_singleton (h part (by simp))
    rw [spell_append, spell_cons, spell_nil, List.append_nil, List.splitOn_append_cons_self,
      ih fun p hp => h p (by simp [hp]), hpart, List.cons_append]

/-! ## Paths without dots -/

/-- A path from the root with no part that is one dot. -/
def IsPlain (path : String) : Prop :=
  isAbsolute path = true ∧ ['.'] ∉ path.toList.splitOn '/'

instance (path : String) : Decidable (IsPlain path) := inferInstanceAs (Decidable (_ ∧ _))

/-- A path with no slash at its end, or the root. -/
def IsTrimmed (path : String) : Prop :=
  path = "/" ∨ path.toList.getLast? ≠ some '/'

/-- The parts of a path from the root, none of which is a dot. -/
structure HasParts (path : String) (parts : List (List Char)) : Prop where
  text : path.toList = spell parts
  ne_nil : parts ≠ []
  areParts : AreParts parts

theorem HasParts.noSlash {path : String} {parts : List (List Char)} (h : HasParts path parts) :
    ∀ part ∈ parts, '/' ∉ part := fun part hpart => (h.areParts part hpart).1

theorem HasParts.noDot {path : String} {parts : List (List Char)} (h : HasParts path parts) :
    ['.'] ∉ parts := fun hpart => (h.areParts _ hpart).2 rfl

theorem HasParts.isPlain {path : String} {parts : List (List Char)} (h : HasParts path parts) :
    IsPlain path := by
  obtain ⟨part, rest, hparts⟩ := List.exists_cons_of_ne_nil h.ne_nil
  refine ⟨by simp [isAbsolute, h.text, hparts], ?_⟩
  rw [h.text, splitOn_spell h.noSlash]
  simpa using h.noDot

theorem IsPlain.exists_parts {path : String} (h : IsPlain path) :
    ∃ parts, HasParts path parts := by
  obtain ⟨cs, hcs⟩ := List.head?_eq_some_iff.mp (by simpa [isAbsolute] using h.1)
  obtain ⟨part, rest, hsplit, hparts⟩ := exists_spell cs
  have htext : path.toList = spell (part :: rest) := by rw [hcs, hsplit, spell_cons]
  have hdot := h.2
  rw [htext, splitOn_spell hparts] at hdot
  refine ⟨part :: rest, htext, by simp, fun p hp => ⟨hparts p hp, ?_⟩⟩
  rintro rfl
  exact hdot (List.mem_cons_of_mem _ hp)

/-- The names of a path are the parts that are not empty. -/
theorem HasParts.names_eq {path : String} {parts : List (List Char)} (h : HasParts path parts) :
    names path = (said parts).map String.ofList := by
  have hkept : (parts.map String.ofList).filter (fun n => n != "" && n != ".") =
      (said parts).map String.ofList := by
    rw [List.filter_map, said]
    refine congrArg _ (List.filter_congr fun part hpart => ?_)
    have hdot : String.ofList part ≠ "." := by
      intro hdot
      have hchars : part = ['.'] := by simpa using congrArg String.toList hdot
      exact h.noDot (hchars ▸ hpart)
    have hempty : (String.ofList part != "") = !part.isEmpty := by cases part <;> simp
    simp [hdot, hempty]
  have hsplit : (path.toList.splitOn '/').map String.ofList = "" :: parts.map String.ofList := by
    rw [h.text, splitOn_spell h.noSlash]
    rfl
  rw [names, hsplit]
  simpa using hkept

/-- The path of some names, each behind its slash. -/
theorem toList_pathOf (parts : List (List Char)) :
    (FileTree.pathOf (parts.map String.ofList)).toList =
      if parts = [] then ['/'] else spell parts := by
  have hjoin : ∀ part rest, List.intercalate ['/'] (part :: rest) = part ++ spell rest := by
    intro part rest
    induction rest generalizing part with
    | nil => simp
    | cons next rest ih => rw [List.intercalate_cons_cons, ih, spell_cons]; simp
  cases parts with
  | nil => rfl
  | cons part rest => simp [FileTree.pathOf, String.toList_intercalate, hjoin]

/-- A path with no slash at its end has a last name. -/
theorem IsPlain.exists_last {path : String} (h : IsPlain path)
    (hlast : path.toList.getLast? ≠ some '/') :
    ∃ parts name, name ≠ [] ∧ HasParts path (parts ++ [name]) := by
  obtain ⟨all, hall⟩ := h.exists_parts
  obtain ⟨parts, name, rfl⟩ : ∃ parts name, all = parts ++ [name] :=
    ⟨_, _, (List.dropLast_concat_getLast hall.ne_nil).symm⟩
  refine ⟨parts, name, ?_, hall⟩
  rwa [hall.text, ne_eq, getLast?_spell (hall.noSlash name (by simp))] at hlast

/-- What is squeezed away is the empty parts. -/
theorem HasParts.squeeze {path : String} {parts : List (List Char)} {name : List Char}
    (h : HasParts path (parts ++ [name])) (hname : name ≠ []) :
    HasParts (squeeze path) (said parts ++ [name]) := by
  refine ⟨?_, by simp, ?_⟩
  · rw [toList_squeeze, h.text, squeezeChars_spell h.noSlash hname]
  · have hparts := List.forall_mem_append.mp h.areParts
    exact List.forall_mem_append.mpr
      ⟨fun part hpart => hparts.1 part (List.mem_of_mem_filter hpart), hparts.2⟩

/-- A path with no slash at its end is squeezed to the plain spelling of its names. -/
theorem IsPlain.squeeze_eq {path : String} (h : IsPlain path) (htrim : IsTrimmed path) :
    Path.squeeze path = FileTree.pathOf (names path) := by
  rcases htrim with rfl | hlast
  · decide +kernel
  obtain ⟨parts, name, hname, hparts⟩ := h.exists_last hlast
  apply String.toList_injective
  rw [(hparts.squeeze hname).text, hparts.names_eq, said_append, said_singleton hname,
    toList_pathOf, if_neg (by simp)]

/-! ## What stands before the last name -/

/-- Nothing is dropped behind a part. -/
theorem dropTail_part {part : List Char} (hne : part ≠ []) (hslash : '/' ∉ part)
    (hdot : part ≠ ['.']) (cs : List Char) :
    dropTail (part.reverse ++ '/' :: cs) = part.reverse ++ '/' :: cs := by
  obtain ⟨c, ds, hback⟩ := List.exists_cons_of_ne_nil (List.reverse_ne_nil_iff.mpr hne)
  have hmem : ∀ d ∈ c :: ds, d ≠ '/' := by
    rintro d hd rfl
    exact hslash (List.mem_reverse.mp (hback ▸ hd))
  have hds : c = '.' → ds ≠ [] := by
    rintro rfl rfl
    exact hdot (List.reverse_eq_iff.mp hback)
  rw [hback, List.cons_append]
  refine dropTail.eq_4 _ ?_ ?_ ?_
  · intro heq
    exact hmem c (by simp) (List.cons.inj heq).1
  · intro rest heq
    exact hmem c (by simp) (List.cons.inj heq).1
  · intro rest heq
    obtain ⟨d, more, rfl⟩ := List.exists_cons_of_ne_nil (hds (List.cons.inj heq).1)
    exact hmem d (by simp) (List.cons.inj (List.cons.inj heq).2).1

/-- The parts without the empty ones at their end; those of the root where none is left. -/
def trimmed (parts : List (List Char)) : List (List Char) :=
  match parts.rdropWhile List.isEmpty with
  | [] => [[]]
  | rest => rest

@[simp] theorem trimmed_nil : trimmed [] = [[]] := rfl

@[simp] theorem trimmed_concat_nil (parts : List (List Char)) :
    trimmed (parts ++ [[]]) = trimmed parts := by
  rw [trimmed, List.rdropWhile_concat_pos _ _ _ rfl, trimmed]

theorem trimmed_concat (parts : List (List Char)) {name : List Char} (h : name ≠ []) :
    trimmed (parts ++ [name]) = parts ++ [name] := by
  rw [trimmed, List.rdropWhile_concat_neg _ _ _ (by simpa using h)]
  split <;> simp_all

/-- Trimmed parts end in a name, unless no part is one. -/
theorem trimmed_cases (parts : List (List Char)) :
    (said parts = [] ∧ trimmed parts = [[]]) ∨
      ∃ before name, trimmed parts = before ++ [name] ∧ name ≠ [] ∧
        said parts = said before ++ [name] ∧ ∀ part ∈ before ++ [name], part ∈ parts := by
  induction parts using List.reverseRecOn with
  | nil => exact .inl ⟨rfl, rfl⟩
  | append_singleton parts part ih =>
    by_cases hpart : part = []
    · have hsaid : said (parts ++ [part]) = said parts := by
        rw [said_append, hpart, said_cons_nil]
        exact List.append_nil _
      rw [hsaid, hpart, trimmed_concat_nil]
      refine ih.imp_right ?_
      rintro ⟨before, name, htrim, hname, hlast, hmem⟩
      exact ⟨before, name, htrim, hname, hlast, fun p hp => List.mem_append_left _ (hmem p hp)⟩
    · right
      refine ⟨parts, part, trimmed_concat parts hpart, hpart, ?_, fun p hp => hp⟩
      rw [said_append, said_singleton hpart]

theorem said_trimmed (parts : List (List Char)) : said (trimmed parts) = said parts := by
  rcases trimmed_cases parts with ⟨hsaid, htrim⟩ | ⟨before, name, htrim, hname, hsaid, -⟩
  · rw [htrim, hsaid]
    rfl
  · rw [htrim, hsaid, said_append, said_singleton hname]

/-- The path with the trimmed parts. -/
theorem AreParts.hasParts_trimmed {parts : List (List Char)} (h : AreParts parts) :
    HasParts (String.ofList (spell (trimmed parts))) (trimmed parts) ∧
      IsTrimmed (String.ofList (spell (trimmed parts))) := by
  rcases trimmed_cases parts with ⟨-, htrim⟩ | ⟨before, name, htrim, hname, -, hmem⟩
  · rw [htrim]
    refine ⟨⟨String.toList_ofList, by simp, ?_⟩, .inl rfl⟩
    simp [AreParts]
  · rw [htrim]
    refine ⟨⟨String.toList_ofList, by simp, fun p hp => h p (hmem p hp)⟩, .inr ?_⟩
    rw [String.toList_ofList, ne_eq, getLast?_spell (h name (hmem name (by simp))).1]
    exact hname

/-- What is dropped at the end of a path is its empty parts there. -/
theorem dropTail_spell {parts : List (List Char)} (hne : parts ≠ []) (h : AreParts parts) :
    dropTail (spell parts).reverse = (spell (trimmed parts)).reverse := by
  induction parts using List.reverseRecOn with
  | nil => exact absurd rfl hne
  | append_singleton parts part ih =>
    have hback : (spell (parts ++ [part])).reverse = part.reverse ++ '/' :: (spell parts).reverse := by
      simp
    by_cases hempty : part = []
    · rw [hback, hempty, List.reverse_nil, List.nil_append, trimmed_concat_nil]
      by_cases hparts : parts = []
      · simp [hparts, dropTail]
      · have hrest : (spell parts).reverse ≠ [] := by
          obtain ⟨first, rest, rfl⟩ := List.exists_cons_of_ne_nil hparts
          simp
        rw [dropTail.eq_2 _ hrest, ih hparts fun p hp => h p (by simp [hp])]
    · have hpart := h part (by simp)
      rw [hback, dropTail_part hempty hpart.1 hpart.2, trimmed_concat parts hempty, hback]

/-- The parts of the path before the last name are those before it, trimmed. -/
theorem HasParts.parent?_eq {path : String} {parts before : List (List Char)} {name : List Char}
    (h : HasParts path parts) (htrim : trimmed parts = before ++ [name]) (hname : name ≠ [])
    (hbefore : AreParts (before ++ [name])) :
    parent? path = some (String.ofList (spell (trimmed before))) := by
  have hpart := hbefore name (by simp)
  have hend : dropTail path.toList.reverse = name.reverse ++ '/' :: (spell before).reverse := by
    rw [h.text, dropTail_spell h.ne_nil h.areParts, htrim]
    simp
  have hslashed : AreParts (before ++ [[]]) := by
    intro p hp
    rcases List.mem_append.mp hp with hp | hp
    · exact hbefore p (List.mem_append_left _ hp)
    · rw [List.mem_singleton.mp hp]
      simp
  have habove : dropTail ('/' :: (spell before).reverse) = (spell (trimmed before)).reverse := by
    simpa using dropTail_spell (by simp) hslashed
  have hrest : (name.reverse ++ '/' :: (spell before).reverse).dropWhile (· != '/') =
      '/' :: (spell before).reverse := by
    rw [List.dropWhile_append_of_pos, List.dropWhile_cons_of_neg (by simp)]
    intro c hc
    rw [bne_iff_ne]
    rintro rfl
    exact hpart.1 (List.mem_reverse.mp hc)
  obtain ⟨last, hlast⟩ : ∃ last, splitLast? path = some (last, (spell (trimmed before)).reverse) := by
    rw [splitLast?, hend]
    split
    · next heq => simp at heq
    · next heq =>
      obtain ⟨c, ds, hback⟩ := List.exists_cons_of_ne_nil (List.reverse_ne_nil_iff.mpr hname)
      rw [hback, List.cons_append] at heq
      exact absurd (List.cons.inj heq).2 (by simp)
    · exact ⟨_, by rw [hrest, habove]⟩
  rw [parent?, hlast, Option.map_some, List.reverse_reverse]

/-- The directory that holds the last name of a path. -/
structure IsAbove (above path : String) : Prop where
  plain : IsPlain above
  isTrimmed : IsTrimmed above
  names_eq : names above = (names path).dropLast

theorem IsPlain.parent?_eq_none {path : String} (h : IsPlain path) (hnames : names path = []) :
    parent? path = none := by
  obtain ⟨parts, hparts⟩ := h.exists_parts
  have hsaid : said parts = [] := by simpa [hparts.names_eq] using hnames
  have htrim : trimmed parts = [[]] := by
    rcases trimmed_cases parts with ⟨-, htrim⟩ | ⟨before, name, -, -, hsome, -⟩
    · exact htrim
    · simp [hsaid] at hsome
  have hend : dropTail path.toList.reverse = ['/'] := by
    rw [hparts.text, dropTail_spell hparts.ne_nil hparts.areParts, htrim]
    rfl
  simp [parent?, splitLast?, hend]

theorem IsPlain.exists_above {path : String} (h : IsPlain path) (hnames : names path ≠ []) :
    ∃ above, parent? path = some above ∧ IsAbove above path := by
  obtain ⟨parts, hparts⟩ := h.exists_parts
  rcases trimmed_cases parts with ⟨hsaid, -⟩ | ⟨before, name, htrim, hname, hsaid, hmem⟩
  · simp [hparts.names_eq, hsaid] at hnames
  have hbefore : AreParts (before ++ [name]) := fun p hp => hparts.areParts p (hmem p hp)
  have hrest : AreParts before := fun p hp => hbefore p (List.mem_append_left _ hp)
  obtain ⟨habove, htrimmed⟩ := hrest.hasParts_trimmed
  refine ⟨_, hparts.parent?_eq htrim hname hbefore, habove.isPlain, htrimmed, ?_⟩
  rw [habove.names_eq, hparts.names_eq, said_trimmed, hsaid, List.map_append, List.map_singleton,
    List.dropLast_concat]

theorem dropTail_isSuffix (cs : List Char) : dropTail cs <:+ cs := by
  induction cs using dropTail.induct with
  | case1 => simp [dropTail]
  | case2 rest hrest ih => rw [dropTail.eq_2 _ hrest]; exact ih.trans (List.suffix_cons _ _)
  | case3 rest ih => rw [dropTail.eq_3]; exact ih.trans (List.suffix_cons _ _)
  | case4 cs h1 h2 h3 => exact (dropTail.eq_4 _ h1 h2 h3).symm ▸ List.suffix_rfl

/-- The path before the last name is what a path begins with. -/
theorem isPrefix_of_parent? {path above : String} (h : parent? path = some above) :
    above.toList <+: path.toList := by
  obtain ⟨⟨name, back⟩, hsplit, rfl⟩ := Option.map_eq_some_iff.mp h
  have hback : back <:+ path.toList.reverse := by
    rw [splitLast?] at hsplit
    split at hsplit
    · cases hsplit
    · cases hsplit
    · cases hsplit
      exact (dropTail_isSuffix _).trans
        ((List.dropWhile_suffix _).trans (dropTail_isSuffix _))
  rw [String.toList_ofList]
  exact List.reverse_suffix.mp (by simpa using hback)

/-! ## What stands behind a directory -/

/-- A text that is one name. -/
def IsName (name : String) : Prop :=
  name ≠ "" ∧ name ≠ "." ∧ '/' ∉ name.toList

instance (name : String) : Decidable (IsName name) := inferInstanceAs (Decidable (_ ∧ _ ∧ _))

/-- A name that is joined to a path is its last part, and no slash follows. -/
theorem IsPlain.hasParts_join {base name : String} (h : IsPlain base) (hname : IsName name) :
    ∃ parts, HasParts (join base name) (parts ++ [name.toList]) ∧
      (said parts).map String.ofList = names base := by
  obtain ⟨parts, hparts⟩ := h.exists_parts
  obtain ⟨hne, hdot, hslashes⟩ := hname
  have hpart : AreParts [name.toList] := by
    intro part hpart
    rw [List.mem_singleton.mp hpart]
    refine ⟨hslashes, fun hchars => hdot ?_⟩
    exact String.toList_injective hchars
  have hbase : base ≠ "" := by
    rintro rfl
    exact absurd h.1 (by decide)
  have hrelative : isAbsolute name = false := by
    rw [isAbsolute, beq_eq_false_iff_ne]
    exact fun hhead => hslashes (List.mem_of_head? hhead)
  have hjoined := toList_join hbase hrelative
  rw [hparts.names_eq]
  by_cases hslash : base.toList.getLast? = some '/'
  · -- the slash at the end is the one in front of the name
    obtain ⟨before, last, hlast⟩ : ∃ before last, parts = before ++ [last] :=
      ⟨_, _, (List.dropLast_concat_getLast hparts.ne_nil).symm⟩
    subst hlast
    have hempty : last = [] := by
      rwa [hparts.text, getLast?_spell (hparts.noSlash last (by simp))] at hslash
    have hbefore := List.forall_mem_append.mp hparts.areParts
    refine ⟨before, ⟨?_, by simp, List.forall_mem_append.mpr ⟨hbefore.1, hpart⟩⟩, ?_⟩
    · rw [hjoined, if_pos hslash, hparts.text, hempty]
      simp
    · simp [hempty, said]
  · refine ⟨parts, ⟨?_, by simp, List.forall_mem_append.mpr ⟨hparts.areParts, hpart⟩⟩, rfl⟩
    rw [hjoined, if_neg hslash, hparts.text]
    simp

/-- A name that is joined to a path is its last name. -/
theorem IsPlain.join {base name : String} (h : IsPlain base) (hname : IsName name) :
    IsPlain (join base name) ∧ IsTrimmed (join base name) ∧
      names (join base name) = names base ++ [name] := by
  obtain ⟨parts, hparts, hnames⟩ := h.hasParts_join hname
  have hne : name.toList ≠ [] := by simpa using hname.1
  refine ⟨hparts.isPlain, .inr ?_, ?_⟩
  · rwa [hparts.text, ne_eq, getLast?_spell hname.2.2]
  · rw [hparts.names_eq, said_append, said_singleton hne, List.map_append, hnames,
      List.map_singleton, String.ofList_toList]

end Path

end Rubric
