/-
  Rubric.Proofs.Outline.Carried

  The JSON form of a document carries the document.

  Coordinates are kept in 64 bits and levels of headings in 8, and readers refuse what
  does not fit. A document all of whose numbers fit is sized. Its JSON form is read
  back as the document as long as its sections are not nested so deep that the JSON
  form goes past what a reader of JSON allows.
-/
import Rubric.Outline.Reader
import Rubric.Outline.Writer
import Rubric.Proofs.Json.Carried
import Rubric.Proofs.Outline.Path

namespace Rubric

/-! ## Numbers that fit -/

/-- The coordinates of a point fit into 64 bits. -/
structure Point.IsSized (p : Point) : Prop where
  line : p.line < 2 ^ 64
  column : p.column < 2 ^ 64
  offset : p.offset < 2 ^ 64

/-- The coordinates of both ends of a span fit. -/
structure Span.IsSized (s : Span) : Prop where
  start : s.start.IsSized
  stop : s.stop.IsSized

/-- The level of a heading fits into 8 bits, and its coordinates fit. -/
structure Heading.IsSized (h : Heading) : Prop where
  level : h.level < 2 ^ 8
  position : h.position.IsSized

/-- The coordinates of a list and of its items fit. -/
structure Listing.IsSized (l : Listing) : Prop where
  items : ∀ i ∈ l.items, i.position.IsSized
  position : l.position.IsSized

/-- All coordinates of a run fit. -/
structure ContentRun.IsSized (r : ContentRun) : Prop where
  position : r.position.IsSized
  paragraphs : ∀ ps ∈ r.paragraphs, ∀ p ∈ ps, p.position.IsSized
  codeBlocks : ∀ cs ∈ r.codeBlocks, ∀ c ∈ cs, c.position.IsSized
  lists : ∀ ls ∈ r.lists, ∀ l ∈ ls, l.IsSized

/-- All numbers of a section fit, and those of the sections below it. -/
inductive Section.IsSized : Section → Prop
  | intro {s : Section} (heading : ∀ h ∈ s.heading, h.IsSized)
      (paragraphs : ∀ p ∈ s.paragraphs, p.position.IsSized)
      (codeBlocks : ∀ c ∈ s.codeBlocks, c.position.IsSized)
      (lists : ∀ l ∈ s.lists, l.IsSized) (content : ∀ r ∈ s.content, r.IsSized)
      (position : s.position.IsSized) (sections : ∀ child ∈ s.sections, Section.IsSized child) :
      Section.IsSized s

/-- All numbers of a document fit. -/
def Document.IsSized (document : Document) : Prop :=
  ∀ s ∈ document.sections, s.IsSized

namespace Outline

open Rubric.Json

variable (origin : Origin)

/-! ## Positions -/

theorem carries_size (depth : Nat) {n : Nat} (hn : n < 2 ^ 64) :
    Carries readSize depth (ofNat n) n :=
  carries_unsigned depth "usize" (Nat.le_refl 64) hn

theorem carries_point {p : Point} (h : p.IsSized) : Carries (readPoint origin) 1 p.toJson p := by
  have hfills : Fills 0 pointLayout.fields _ Point.zero p :=
    .present (carries_size 0 h.line) <| .present (carries_size 0 h.column) <|
      .present (carries_size 0 h.offset) <| .nil _
  exact hfills.carries (by simp [answers, pointLayout, Field.of]) origin

theorem carries_span {s : Span} (h : s.IsSized) : Carries (readSpan origin) 2 s.toJson s := by
  have hfills : Fills 1 (spanLayout origin).fields _ Span.zero s :=
    .present (carries_point origin h.start) <| .present (carries_point origin h.stop) <| .nil _
  exact hfills.carries (by simp [answers, spanLayout, Field.of]) origin

/-! ## Content -/

theorem carries_heading {h : Heading} (hsized : h.IsSized) :
    Carries (readHeading origin) 3 h.toJson h := by
  have hlevel : Carries (readUnsigned "u8" 8) 2 (ofNat h.level) h.level :=
    carries_unsigned 2 "u8" (by decide) hsized.level
  have hfills : Fills 2 (headingLayout origin).fields _ ⟨0, "", Span.zero⟩ h :=
    .present hlevel <| .present (carries_text 2 h.content) <|
      .present (carries_span origin hsized.position) <| .nil _
  exact hfills.carries (by simp [answers, headingLayout, Field.of]) origin

theorem carries_paragraph {p : Paragraph} (h : p.position.IsSized) :
    Carries (readParagraph origin) 3 p.toJson p := by
  have hfills : Fills 2 (paragraphLayout origin).fields _ ⟨"", Span.zero⟩ p :=
    .present (carries_text 2 p.content) <| .present (carries_span origin h) <| .nil _
  exact hfills.carries (by simp [answers, paragraphLayout, Field.of]) origin

/-- A member that is left out where there is no value fills its field all the same. -/
theorem fills_optional {α σ : Type} {depth : Nat} {name : String} {read : Reader α}
    {write : α → Json} {o : Option α} {put : Option α → σ → σ} {aliases : List String}
    {fields : List (Json.Field σ)} {members : List (String × Json)} {s t : σ}
    (ho : ∀ x ∈ o, Carries read depth (write x) x ∧ write x ≠ .null) (hnone : put none s = s)
    (hrest : Fills depth fields members (put o s) t) :
    Fills depth (.of name .defaulted (readOption read) put aliases :: fields)
      (optionalMember name write o ++ members) s t := by
  cases o with
  | none =>
    rw [hnone] at hrest
    exact .absent nofun hrest
  | some x =>
    obtain ⟨hx, hwritten⟩ := ho x rfl
    exact .present (hx.some hwritten) hrest

theorem carries_codeBlock {c : CodeBlock} (h : c.position.IsSized) :
    Carries (readCodeBlock origin) 3 c.toJson c := by
  have hlanguage : ∀ s ∈ c.language, Carries readText 2 (.string s) s ∧ Json.string s ≠ .null :=
    fun s _ => ⟨carries_text 2 s, nofun⟩
  have hfills : Fills 2 (codeBlockLayout origin).fields _ ⟨"", none, Span.zero⟩ c :=
    .present (carries_text 2 c.content) <| fills_optional hlanguage rfl <|
      .present (carries_span origin h) <| .nil _
  exact hfills.carries (by simp [answers, codeBlockLayout, Field.of]) origin

theorem carries_item {i : ListItem} (h : i.position.IsSized) :
    Carries (readItem origin) 3 i.toJson i := by
  have hfills : Fills 2 (itemLayout origin).fields _ ⟨"", Span.zero⟩ i :=
    .present (carries_text 2 i.content) <| .present (carries_span origin h) <| .nil _
  exact hfills.carries (by simp [answers, itemLayout, Field.of]) origin

theorem carries_listing {l : Listing} (h : l.IsSized) :
    Carries (readListing origin) 5 l.toJson l := by
  have hitems : Carries (readList (readItem origin)) 4 (.array (l.items.map ListItem.toJson))
      l.items := carries_list fun i hi => carries_item origin (h.items i hi)
  have hposition := (carries_span origin h.position).mono (show 2 ≤ 4 by decide)
  have hfills : Fills 4 (listLayout origin).fields _ ⟨false, [], Span.zero⟩ l :=
    .present (carries_bool 4 l.ordered) <| .present hitems <| .present hposition <| .nil _
  exact hfills.carries (by simp [answers, listLayout, Field.of]) origin

/-! ### Lists of content -/

theorem carries_paragraphs {ps : List Paragraph} (h : ∀ p ∈ ps, p.position.IsSized) :
    Carries (readList (readParagraph origin)) 6 (arrayOf Paragraph.toJson ps) ps :=
  (carries_list fun p hp => carries_paragraph origin (h p hp)).mono (by decide)

theorem carries_codeBlocks {cs : List CodeBlock} (h : ∀ c ∈ cs, c.position.IsSized) :
    Carries (readList (readCodeBlock origin)) 6 (arrayOf CodeBlock.toJson cs) cs :=
  (carries_list fun c hc => carries_codeBlock origin (h c hc)).mono (by decide)

theorem carries_listings {ls : List Listing} (h : ∀ l ∈ ls, l.IsSized) :
    Carries (readList (readListing origin)) 6 (arrayOf Listing.toJson ls) ls :=
  carries_list fun l hl => carries_listing origin (h l hl)

theorem carries_run {r : ContentRun} (h : r.IsSized) :
    Carries (readRun origin) 7 r.toJson r := by
  have hposition := (carries_span origin h.position).mono (show 2 ≤ 6 by decide)
  have hparagraphs := fun ps hps => carries_paragraphs origin (h.paragraphs ps hps)
  have hcodeBlocks := fun cs hcs => carries_codeBlocks origin (h.codeBlocks cs hcs)
  have hlists := fun ls hls => carries_listings origin (h.lists ls hls)
  have hfills : Fills 6 (runLayout origin).fields _ ⟨Span.zero, none, none, none⟩ r :=
    .present hposition <| fills_optional (fun ps hps => ⟨hparagraphs ps hps, nofun⟩) rfl <|
      fills_optional (fun cs hcs => ⟨hcodeBlocks cs hcs, nofun⟩) rfl <|
      fills_optional (fun ls hls => ⟨hlists ls hls, nofun⟩) rfl <| .nil _
  have hcarries := hfills.carries (by simp [answers, runLayout, Field.of]) origin
  rw [List.append_nil] at hcarries
  exact hcarries

/-! ## Sections and documents -/

theorem sectionsToJson_eq_map (sections : List Section) :
    sectionsToJson sections = sections.map Section.toJson := by
  induction sections with
  | nil => rfl
  | cons s rest ih => rw [sectionsToJson, ih, List.map_cons]

theorem carries_headingToJson {h? : Option Heading} (hsized : ∀ h ∈ h?, h.IsSized)
    (depth : Nat) (hdepth : 3 ≤ depth) :
    Carries (readOption (readHeading origin)) depth (headingToJson h?) h? := by
  cases h? with
  | none => exact carries_none _ depth
  | some h => exact ((carries_heading origin (hsized h rfl)).mono hdepth).some nofun

/-- The form of a section carries it if the forms of the sections below it do. -/
theorem carries_section_of_below {s : Section} (h : s.IsSized) {levels depth : Nat}
    (hdepth : 8 ≤ depth)
    (hbelow : ∀ child ∈ s.sections,
      Carries (readLevels origin levels) (depth - 1) child.toJson child) :
    Carries (readLevels origin (levels + 1)) (depth + 1) s.toJson s := by
  obtain ⟨hheading, hparagraphs, hcodeBlocks, hlists, hcontent, hposition, -⟩ := h
  obtain ⟨id, heading, paragraphs, codeBlocks, lists, content, sections, position, rawContent⟩ := s
  have hruns : Carries (readList (readRun origin)) depth (arrayOf ContentRun.toJson content)
      content :=
    (carries_list fun r hr => carries_run origin (hcontent r hr)).mono hdepth
  have hsections : Carries (readList (readLevels origin levels)) depth
      (.array (sectionsToJson sections)) sections := by
    rw [sectionsToJson_eq_map]
    exact (carries_list hbelow).mono (by omega)
  have hfills : Fills depth (sectionLayout origin (readLevels origin levels)).fields _ {}
      ⟨id, heading, paragraphs, codeBlocks, lists, content, sections, position, rawContent⟩ :=
    .present (carries_text depth id) <|
      .present (carries_headingToJson origin hheading depth (by omega)) <|
      .present ((carries_paragraphs origin hparagraphs).mono (by omega)) <|
      .present ((carries_codeBlocks origin hcodeBlocks).mono (by omega)) <|
      .present ((carries_listings origin hlists).mono (by omega)) <|
      .present hruns <| .present hsections <|
      .present ((carries_span origin hposition).mono (by omega)) <|
      .present (carries_text depth rawContent) <| .nil _
  exact hfills.carries (by simp [answers, sectionLayout, Field.of]) origin

/-- Every level of sections takes up two levels of nesting. -/
theorem carries_levels {s : Section} (h : s.IsSized) {n levels : Nat}
    (hn : levelsOf s.sections ≤ n) (hlevels : n < levels) :
    Carries (readLevels origin levels) (2 * n + 9) s.toJson s := by
  induction n generalizing s levels with
  | zero =>
    obtain ⟨levels, rfl⟩ : ∃ m, levels = m + 1 := ⟨levels - 1, by omega⟩
    refine carries_section_of_below origin h (Nat.le_refl 8) fun child hchild => ?_
    exact absurd (levelsOf_le_iff.1 hn child hchild) (Nat.not_succ_le_zero _)
  | succ n ih =>
    obtain ⟨levels, rfl⟩ : ∃ m, levels = m + 1 := ⟨levels - 1, by omega⟩
    have hbelow : ∀ child ∈ s.sections, child.IsSized := by
      obtain ⟨-, -, -, -, -, -, hsections⟩ := h
      exact hsections
    have hdepth : 8 ≤ 2 * (n + 1) + 8 := Nat.le_add_left 8 _
    refine carries_section_of_below origin h hdepth fun child hchild => ?_
    have hchildLevels : levelsOf child.sections ≤ n :=
      Nat.le_of_succ_le_succ (levelsOf_le_iff.1 hn child hchild)
    exact ih (hbelow child hchild) hchildLevels (by omega)

theorem carries_section {s : Section} (h : s.IsSized) {n : Nat} (hn : levelsOf s.sections ≤ n) :
    Carries (readSection origin) (2 * n + 9) s.toJson s := by
  have hlevels := carries_levels origin h hn (Nat.lt_succ_self n)
  exact ⟨hlevels.exact, hlevels.depth_le, fun room hroom =>
    (carries_levels origin h hn (by omega)).reads room hroom⟩

/-- **The form of a document carries the document.** With at most `n + 1` levels of
    sections it is nested at most `2 * n + 11` deep. -/
theorem carries_document {document : Document} (h : document.IsSized) {n : Nat}
    (hn : levelsOf document.sections ≤ n + 1) :
    Carries (readDocument origin) (2 * n + 11) document.toJson document := by
  obtain ⟨sections, preamble⟩ := document
  have hsections : Carries (readList (readSection origin)) (2 * n + 10)
      (.array (sectionsToJson sections)) sections := by
    rw [sectionsToJson_eq_map]
    refine carries_list fun s hs => carries_section origin (h s hs) ?_
    exact Nat.le_of_succ_le_succ (levelsOf_le_iff.1 hn s hs)
  have hpreamble : Fills (2 * n + 10)
      [.of "preamble" .defaulted readText fun x (d : Document) => { d with preamble := x }]
      (if preamble.isEmpty then [] else [("preamble", .string preamble)])
      ⟨sections, ""⟩ ⟨sections, preamble⟩ := by
    split
    · next hempty =>
      obtain rfl := String.isEmpty_iff.1 hempty
      exact .absent nofun (.nil _)
    · exact .present (carries_text _ preamble) (.nil _)
  have hfills : Fills (2 * n + 10) (documentLayout origin).fields _ {} ⟨sections, preamble⟩ :=
    .present hsections hpreamble
  exact hfills.carries (by simp [answers, documentLayout, Field.of]) origin

end Outline

end Rubric
