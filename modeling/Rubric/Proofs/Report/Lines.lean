/-
  Rubric.Proofs.Report.Lines

  The lines of the report as text.

  A report has a line for each violation below its header, but labels and messages are
  put in as they are. A sentence has the line feeds of the texts that it quotes and no
  others, so that a text of the document, of the template or of the checker that goes
  over several lines takes as many lines more.
-/
import Mathlib.Algebra.BigOperators.Group.List.Basic
import Mathlib.Algebra.GroupWithZero.Nat
import Rubric.Markdown.Blocks
import Rubric.Proofs.Conformance.Arising
import Rubric.Regex.Reader
import Rubric.Report

namespace Rubric

/-! ## Lines of texts -/

namespace Text

/-- The number of line feeds in a text. -/
def feeds (text : String) : Nat :=
  text.toList.count '\n'

/-- The lines that a text is shown in: what stands between line feeds. -/
def rows (text : String) : List String :=
  (text.toList.splitOn '\n').map String.ofList

@[simp] theorem feeds_append (a b : String) : feeds (a ++ b) = feeds a + feeds b := by
  simp [feeds]

@[simp] theorem feeds_toString (text : String) : feeds (toString text) = feeds text := rfl

theorem feeds_eq_zero {text : String} (h : '\n' ∉ text.toList) : feeds text = 0 :=
  List.count_eq_zero.2 h

/-- Numerals are written without line feeds. -/
@[simp] theorem feeds_repr (n : Nat) : feeds n.repr = 0 := by
  refine feeds_eq_zero fun hmem => ?_
  rw [Nat.repr_eq_ofList_toDigits, String.toList_ofList] at hmem
  exact absurd (Nat.isDigit_of_mem_toDigits (by decide) (by decide) hmem) (by decide)

theorem feeds_intercalate_eq_zero {separator : String} (hseparator : feeds separator = 0)
    {parts : List String} (hparts : ∀ part ∈ parts, feeds part = 0) :
    feeds (separator.intercalate parts) = 0 := by
  induction parts with
  | nil => rfl
  | cons first rest ih =>
    obtain ⟨hfirst, hrest⟩ := List.forall_mem_cons.1 hparts
    cases rest with
    | nil => rwa [String.intercalate_singleton]
    | cons second rest =>
      rw [String.intercalate_cons_cons, feeds_append, feeds_append, hfirst, hseparator, ih hrest]

theorem splitOn_length (cs : List Char) :
    (cs.splitOn '\n').length = cs.count '\n' + 1 := by
  induction cs with
  | nil => rfl
  | cons c cs ih =>
    by_cases hc : c = '\n'
    · subst hc
      have hsplit : (('\n' :: cs).splitOn '\n') = [] :: cs.splitOn '\n' :=
        List.splitOn_append_cons_self [] cs
      rw [hsplit, List.length_cons, ih, List.count_cons_self]
    · simp [List.splitOn, List.splitOnP_cons_eq_if_modifyHead, hc] at ih ⊢
      exact ih

theorem rows_length (text : String) : (rows text).length = feeds text + 1 := by
  rw [rows, List.length_map, splitOn_length, feeds]

/-- A text without line feeds is shown in one line. -/
theorem rows_eq_self_iff (text : String) : rows text = [text] ↔ feeds text = 0 := by
  constructor
  · intro h
    have hlength := rows_length text
    rw [h, List.length_singleton] at hlength
    omega
  · intro h
    rw [rows, List.splitOn_eq_singleton (List.count_eq_zero.1 h)]
    simp

/-- Texts with line feeds between them are shown one after another. -/
theorem rows_intercalate (first : String) (rest : List String) :
    rows (String.intercalate "\n" (first :: rest)) = (first :: rest).flatMap rows := by
  induction rest generalizing first with
  | nil => simp [rows]
  | cons second rest ih =>
    have hsplit : rows (String.intercalate "\n" (first :: second :: rest))
        = rows first ++ rows (String.intercalate "\n" (second :: rest)) := by
      simp [rows, String.toList_intercalate, List.splitOn_append_cons_self]
    rw [hsplit, ih]
    rfl

end Text

/-! ## Line feeds in sentences -/

namespace Finding

theorem feeds_noun (kind : ContentKind) : Text.feeds (noun kind) = 0 := by
  cases kind <;> decide

theorem feeds_kindText (kind? : Option ContentKind) : Text.feeds (kindText kind?) = 0 := by
  cases kind? with
  | none => decide
  | some kind => cases kind <;> decide

theorem feeds_fullStop (sentence : String) : Text.feeds (fullStop sentence) = 0 := by
  unfold fullStop
  split <;> decide

theorem feeds_kindsText (kinds : List (Option ContentKind)) :
    Text.feeds (kindsText kinds) = 0 := by
  have hinner : Text.feeds (String.intercalate "," (kinds.map kindText)) = 0 :=
    Text.feeds_intercalate_eq_zero (by decide) (List.forall_mem_map.2 fun k _ => feeds_kindText k)
  rw [kindsText, Text.feeds_append, Text.feeds_append, hinner]
  decide

/-- A sentence has the line feeds of what it quotes. -/
theorem feeds_message (finding : Finding) :
    Text.feeds finding.message = (finding.quotes.map Text.feeds).sum := by
  unfold message
  cases finding <;>
    simp (disch := decide) [quotes, feeds_noun, feeds_fullStop, feeds_kindsText, Text.feeds_eq_zero]

end Finding

/-- The number of line feeds in the label and the message of a violation. -/
def Violation.feeds (v : Violation) : Nat :=
  Text.feeds (v.heading.getD "") + Text.feeds v.message

theorem ViolationKind.feeds_name (kind : ViolationKind) : Text.feeds kind.name = 0 := by
  cases kind <;> decide

namespace Report

/-! ## Lines of reports -/

/-- The text shows a violation: its kind, its label, where it starts and ends, and at the end
    its whole message. -/
structure Shows (text : String) (v : Violation) : Prop where
  kind : v.kind.name.toList <:+: text.toList
  label : (v.heading.getD "").toList <:+: text.toList
  start : (toString v.position.start.offset).toList <:+: text.toList
  stop : (toString v.position.stop.offset).toList <:+: text.toList
  message : v.message.toList <:+ text.toList

theorem feeds_line (v : Violation) : Text.feeds (line v) = v.feeds := by
  simp (disch := decide) [line, Violation.feeds, ViolationKind.feeds_name, Text.feeds_eq_zero]

theorem line_shows (v : Violation) : Shows (line v) v := by
  let first := toString v.position.start.offset
  let last := toString v.position.stop.offset
  let label := v.heading.getD ""
  -- What stands before the kind, the label, the offsets and the message.
  let head := "- [" ++ v.kind.name ++ "] "
  let places := " (start: " ++ first ++ ", end: " ++ last ++ "): "
  have hline : line v = head ++ label ++ places ++ v.message := calc
    line v = "- [" ++ v.kind.name ++ "] " ++ label ++ " (start: " ++ first ++ ", end: " ++ last
        ++ "): " ++ v.message := rfl
    _ = head ++ label ++ places ++ v.message := by simp only [String.append_assoc, head, places]
  rw [hline]
  exact {
    kind := ⟨"- [".toList, ("] " ++ label ++ places ++ v.message).toList, by simp [head]⟩
    label := ⟨head.toList, (places ++ v.message).toList, by simp [label]⟩
    start := ⟨(head ++ label ++ " (start: ").toList,
      (", end: " ++ last ++ "): " ++ v.message).toList, by simp [places, first]⟩
    stop := ⟨(head ++ label ++ " (start: " ++ first ++ ", end: ").toList,
      ("): " ++ v.message).toList, by simp [places, last]⟩
    message := ⟨(head ++ label ++ places).toList, by simp⟩ }

theorem rows_toText {violations : List Violation} (hfound : violations ≠ []) :
    Text.rows (ofViolations violations).toText =
      "Structure violations found:" :: violations.flatMap fun v => Text.rows (line v) := by
  have hfailure : (ofViolations violations).success = false := by simpa [ofViolations] using hfound
  have hheader : Text.rows "Structure violations found:" = ["Structure violations found:"] :=
    (Text.rows_eq_self_iff _).2 (by decide)
  rw [toText, hfailure, if_neg Bool.false_ne_true, Text.rows_intercalate, List.flatMap_cons,
    hheader, List.flatMap_map]
  rfl

theorem rows_toText_length {violations : List Violation} (hfound : violations ≠ []) :
    (Text.rows (ofViolations violations).toText).length =
      violations.length + 1 + (violations.map Violation.feeds).sum := by
  have hline : ∀ v, (Text.rows (line v)).length = v.feeds + 1 := fun v => by
    rw [Text.rows_length, feeds_line]
  rw [rows_toText hfound, List.length_cons, List.length_flatMap]
  simp only [hline, List.sum_map_add, List.map_const', List.sum_replicate]
  simp
  omega

theorem sum_feeds_eq_zero_iff (violations : List Violation) :
    (violations.map Violation.feeds).sum = 0 ↔ ∀ v ∈ violations, v.feeds = 0 := by
  rw [List.sum_eq_zero_iff_forall_eq_nat, List.forall_mem_map]

/-- There is one line for each violation iff none has a line feed in its label or message. -/
theorem rows_toText_eq_iff {violations : List Violation} (hfound : violations ≠ []) :
    Text.rows (ofViolations violations).toText =
        "Structure violations found:" :: violations.map line ↔
      ∀ v ∈ violations, v.feeds = 0 := by
  constructor
  · intro hrows
    have hlength := rows_toText_length hfound
    rw [hrows, List.length_cons, List.length_map] at hlength
    exact (sum_feeds_eq_zero_iff violations).1 (by omega)
  · intro hplain
    have hline : ∀ v ∈ violations, Text.rows (line v) = [line v] := fun v hv =>
      (Text.rows_eq_self_iff _).2 ((feeds_line v).trans (hplain v hv))
    rw [rows_toText hfound, List.flatMap_congr hline, List.map_eq_flatMap]

/-- **The report on a document has a line for each violation, and as many lines more as there
    are line feeds in labels and messages.** Below the header stand the lines of one violation
    after another, with its kind, label, offsets and message. The line feeds are those of the
    heading of a section and of the texts of the section, the rule or the checker that its
    sentence quotes: without any, there is one line for each violation exactly. -/
theorem text_of_checked_document {checker : Checker} {table : List (String × Rule)}
    {document : Document} {violations : List Violation}
    (hcheck : (checkDocument checker table document).result = .ok violations)
    (hfound : violations ≠ []) :
    let header := "Structure violations found:"
    let shown := Text.rows (ofViolations violations).toText
    shown = header :: violations.flatMap (fun v => Text.rows (line v)) ∧
    shown.length = violations.length + 1 + (violations.map Violation.feeds).sum ∧
    (shown = header :: violations.map line ↔ ∀ v ∈ violations, v.feeds = 0) ∧
    ∀ v ∈ violations, Shows (line v) v ∧
      ∃ (s : Section) (r : Rule) (finding : Finding),
        HeldAgainst table document.sections s r ∧
        v = finding.toViolation s.label? v.position ∧
        (∀ text ∈ finding.quotes, Quotable checker r s text) ∧
        v.feeds = Text.feeds (s.label?.getD "") + (finding.quotes.map Text.feeds).sum := by
  refine ⟨rows_toText hfound, rows_toText_length hfound, rows_toText_eq_iff hfound, fun v hv => ?_⟩
  obtain ⟨entry, hentry, s, hs, harises⟩ :=
    checkDocument_arises checker table document violations hcheck v hv
  obtain ⟨t, q, hheld, finding, position, rfl, -, hquotes⟩ :=
    harises.exists_tells (.top hentry hs)
  refine ⟨line_shows _, t, q, finding, hheld, rfl, hquotes, ?_⟩
  rw [Violation.feeds, Finding.toViolation, finding.feeds_message]

/-- A title that is not the wanted one and an explanation of the checker: two violations on
    two lines below the header. -/
theorem two_violations_take_two_lines :
    let install : Rule := { heading := some { constant := some "Install" } }
    let usage : Rule := { instructions := ["Be brief."] }
    let table := [("install", install), ("usage", usage)]
    let checker : Checker := fun _ _ => .fail "Too long."
    let document := Markdown.outline "# Setup\n\n# Usage\n"
    ∃ violations, (checkDocument checker table document).result = .ok violations ∧
      violations ≠ [] ∧
      Text.rows (ofViolations violations).toText =
        ["Structure violations found:",
          "- [heading_const_error] Setup (start: 0, end: 7): "
            ++ "Expected title \"Install\", but found \"Setup\"",
          "- [instruction_error] Usage (start: 9, end: 16): "
            ++ "Instruction: Be brief. Explanation: Too long."] := by
  intro install usage table checker document
  let violations : List Violation :=
    [⟨.headingConst, some "Setup", ⟨⟨1, 1, 0⟩, ⟨1, 8, 7⟩⟩,
        "Expected title \"Install\", but found \"Setup\""⟩,
      ⟨.instruction, some "Usage", ⟨⟨3, 1, 9⟩, ⟨3, 8, 16⟩⟩,
        "Instruction: Be brief. Explanation: Too long."⟩]
  have hcheck : (checkDocument checker table document).result = .ok violations := by
    decide +kernel
  have hfound : violations ≠ [] := List.cons_ne_nil _ _
  obtain ⟨-, -, hlines, -⟩ := text_of_checked_document hcheck hfound
  refine ⟨violations, hcheck, hfound, ?_⟩
  rw [hlines.2 (by decide +kernel)]
  decide +kernel

/-- A paragraph of two lines that does not match its pattern: the one violation takes two
    lines, and its message ends on the second of them. -/
theorem paragraph_of_two_lines_takes_two :
    let source := "# Note\n\nfirst line\nsecond line\n"
    let rule : Rule := { paragraphs := some { patterns := (Pattern.ofText? "^ok$").toList } }
    ∃ v, (checkDocument .skip [("note", rule)] (Markdown.outline source)).result = .ok [v] ∧
      v.kind = .paragraphPattern ∧
      Text.rows (ofViolations [v]).toText =
        ["Structure violations found:",
          "- [paragraph_pattern_error] Note (start: 8, end: 30): Paragraph \"first line",
          "second line\" doesn't match expected pattern \"^ok$\""] := by
  intro source rule
  let v : Violation := ⟨.paragraphPattern, some "Note", ⟨⟨3, 1, 8⟩, ⟨4, 12, 30⟩⟩,
    "Paragraph \"first line\nsecond line\" doesn't match expected pattern \"^ok$\""⟩
  refine ⟨v, ?_, rfl, ?_⟩
  · decide +kernel
  · decide +kernel

end Report

end Rubric
