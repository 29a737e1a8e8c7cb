/-
  Rubric.Proofs.Report.Carried

  The JSON form of a report carries the report.

  Kinds are written by their names, and no two kinds share one. A heading that is absent
  is left out, and what is left out is read as absent. So a report is read back from its
  text, and reports of different violations have different texts.
-/
import Rubric.Proofs.Outline.Carried
import Rubric.Report

namespace Rubric

open Rubric.Json

/-! ## Named alternatives -/

/-- If no two alternatives share a name, each is found by its own. -/
theorem Json.variant_of_mem {α : Type} {known : List (String × α)}
    (hnodup : (known.map Prod.fst).Nodup) {entry : String × α} (h : entry ∈ known) :
    variant known entry.1 = .ok entry.2 := by
  have hfound : known.find? (fun other => other.1 == entry.1) = some entry := by
    induction known with
    | nil => exact nomatch h
    | cons other rest ih =>
      rw [List.map_cons, List.nodup_cons] at hnodup
      cases h with
      | head => exact List.find?_cons_of_pos (beq_self_eq_true _)
      | tail _ h =>
        have hne : (other.1 == entry.1) = false := by
          rw [beq_eq_false_iff_ne]
          intro heq
          exact hnodup.1 (heq ▸ List.mem_map_of_mem h)
        simp only [List.find?_cons, hne]
        exact ih hnodup.2 h
  rw [variant, hfound]

theorem Json.carries_variant (origin : Origin) {α : Type} {known : List (String × α)}
    (hnodup : (known.map Prod.fst).Nodup) {entry : String × α} (h : entry ∈ known)
    (depth : Nat) : Carries (readVariant origin known) depth (.string entry.1) entry.2 :=
  ⟨trivial, Nat.zero_le _, fun _ _ => variant_of_mem hnodup h⟩

namespace ViolationKind

theorem mem_all (kind : ViolationKind) : kind ∈ all := by
  cases kind <;> decide

theorem mem_named (kind : ViolationKind) : (kind.name, kind) ∈ named :=
  List.mem_map_of_mem (mem_all kind)

theorem nodup_names : (named.map Prod.fst).Nodup := by decide

end ViolationKind

/-! ## Violations and reports -/

section
variable (origin : Origin)

theorem Violation.carries {v : Violation} (h : v.position.IsSized) :
    Carries (Violation.read origin) 3 v.toJson v := by
  obtain ⟨kind, heading, position, message⟩ := v
  have hkind := carries_variant origin ViolationKind.nodup_names kind.mem_named 2
  have hheading : ∀ s ∈ heading, Carries readText 2 (.string s) s ∧ Json.string s ≠ .null :=
    fun s _ => ⟨carries_text 2 s, nofun⟩
  have hfills : Fills 2 (Violation.layout origin).fields _ ⟨.headingConst, none, Span.zero, ""⟩
      ⟨kind, heading, position, message⟩ :=
    .present hkind <| Outline.fills_optional hheading rfl <|
      .present (Outline.carries_span origin h) <| .present (carries_text 2 message) <| .nil _
  exact hfills.carries (by simp [answers, Violation.layout, Field.of]) origin

theorem Report.carries {report : Report} (h : ∀ v ∈ report.errors, v.position.IsSized) :
    Carries ((layout origin).read origin ⟨true, []⟩) 5 report.toJson report := by
  have herrors : Carries (readList (Violation.read origin)) 4
      (arrayOf Violation.toJson report.errors) report.errors :=
    carries_list fun v hv => Violation.carries origin (h v hv)
  have hfills : Fills 4 (layout origin).fields _ ⟨true, []⟩ report :=
    .present (carries_bool 4 report.success) <| .present herrors <| .nil _
  exact hfills.carries (by simp [answers, layout, Field.of]) origin

end

namespace Report

/-- The text of a report is read back as the report. -/
theorem ofJsonText_toJsonText {report : Report} (h : ∀ v ∈ report.errors, v.position.IsSized) :
    ofJsonText report.toJsonText = .ok report := by
  have hcarries := Report.carries .text h
  have hread : (layout .text).read .text ⟨true, []⟩ nestingLimit (Draft.ofJson report.toJson)
      = .ok report := hcarries.reads nestingLimit (by decide)
  rw [ofJsonText, readDocument, toJsonText,
    ofText_spells (padded_spells_written hcarries.exact).2]
  dsimp only
  rw [hread]
  rfl

/-- **The JSON text of a report loses nothing.** Whatever the violations, as long as their
    coordinates fit into 64 bits, the text of the report on them is read back as that report.
    So different violations never make the same text. -/
theorem json_text_loses_nothing :
    (∀ violations : List Violation, (∀ v ∈ violations, v.position.IsSized) →
      ofJsonText (ofViolations violations).toJsonText = .ok (ofViolations violations)) ∧
    ∀ violations others : List Violation, (∀ v ∈ violations, v.position.IsSized) →
      (∀ v ∈ others, v.position.IsSized) →
      (ofViolations violations).toJsonText = (ofViolations others).toJsonText →
      violations = others := by
  constructor
  · intro violations hsized
    exact ofJsonText_toJsonText hsized
  · intro violations others hsized hothers htext
    have hfirst : ofJsonText (ofViolations violations).toJsonText =
        .ok (ofViolations violations) := ofJsonText_toJsonText hsized
    have hsecond : ofJsonText (ofViolations others).toJsonText = .ok (ofViolations others) :=
      ofJsonText_toJsonText hothers
    rw [htext, hsecond] at hfirst
    have hsame : ofViolations others = ofViolations violations := Except.ok.inj hfirst
    exact (congrArg Report.errors hsame).symm

/-- Two reports that differ in a heading only, absent in the one and empty in the other, with
    an offset of 64 bits and a message of escaped and unescaped characters. -/
theorem absent_heading_is_not_empty :
    let last : Nat := 2 ^ 64 - 1
    let position : Span := ⟨⟨1, 1, 0⟩, ⟨last, last, last⟩⟩
    let message := "Title \"é\\\n\x01\u2028😀\" doesn't match pattern \"\t\""
    let absent : Violation := ⟨.headingPattern, none, position, message⟩
    let empty : Violation := ⟨.headingPattern, some "", position, message⟩
    absent.position.IsSized ∧ absent ≠ empty ∧
      ofJsonText (ofViolations [absent, empty]).toJsonText
        = .ok (ofViolations [absent, empty]) ∧
      (ofViolations [absent]).toJsonText ≠ (ofViolations [empty]).toJsonText := by
  intro last position message absent empty
  have hsized : position.IsSized :=
    ⟨⟨by decide, by decide, by decide⟩, ⟨by decide, by decide, by decide⟩⟩
  have hdiffer : absent ≠ empty := by decide
  obtain ⟨hread, hinjective⟩ := json_text_loses_nothing
  refine ⟨hsized, hdiffer, ?_, fun htext => hdiffer ?_⟩
  · refine hread [absent, empty] ?_
    rw [List.forall_mem_cons, List.forall_mem_singleton]
    exact ⟨hsized, hsized⟩
  · have hsame := hinjective [absent] [empty] (List.forall_mem_singleton.2 hsized)
      (List.forall_mem_singleton.2 hsized) htext
    exact (List.cons.inj hsame).1

end Report

end Rubric
