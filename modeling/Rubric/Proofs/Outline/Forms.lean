/-
  Rubric.Proofs.Outline.Forms

  The two forms of a document agree.

  A document comes as a Markdown source or as the JSON form of an outline. The JSON
  form is read back as the document it was written from, with at most fifty levels of
  sections, and no source makes more than six. So checking the outline of a source in
  its JSON form comes to the same as checking the source.
-/
import Rubric.Lint
import Rubric.Proofs.Markdown.Sized

namespace Rubric

/-! ## Texts of documents -/

/-- The text is the JSON form of the document, with any space between its parts. -/
def Document.IsWrittenAs (document : Document) (text : String) : Prop :=
  Json.Padded (Json.Spells document.toJson) text.toList

namespace Document

section
variable {document : Document} (hsized : document.IsSized)
  (hlevels : levelsOf document.sections ≤ 50)
include hsized hlevels

/-- Fifty levels of sections are nested 109 deep in their JSON form. -/
theorem carries_toJson : Json.Carries (Outline.readDocument .text) 109 document.toJson document :=
  Outline.carries_document .text hsized (n := 49) hlevels

theorem isWrittenAs_compact : document.IsWrittenAs (Json.compact document.toJson) :=
  (Json.padded_spells_written (carries_toJson hsized hlevels).exact).1

theorem isWrittenAs_pretty : document.IsWrittenAs (Json.pretty document.toJson) :=
  (Json.padded_spells_written (carries_toJson hsized hlevels).exact).2

/-- The JSON form of a document is read back as the document. -/
theorem parse_of_isWrittenAs {text : String} (htext : document.IsWrittenAs text) :
    DocumentFormat.json.parse text = .ok document := by
  have hroom : 109 + 2 ≤ Json.nestingLimit := by decide
  have hread : Outline.readDocument .text Json.nestingLimit (Json.Draft.ofJson document.toJson)
      = .ok document := (carries_toJson hsized hlevels).reads Json.nestingLimit hroom
  have hdocument : Json.readDocument (Outline.readDocument .text) text = .ok document := by
    rw [Json.readDocument, Json.ofText_spells htext]
    dsimp only
    rw [hread]
    rfl
  rw [DocumentFormat.parse, hdocument]

end

end Document

/-! ## Requests -/

/-- What a check comes to, without the contexts that name the file: never to an end, to
    the cause of a failure, or to a report. -/
def outcome (result : Option (Except Failure Report)) : Option (Except Cause Report) :=
  result.map (Except.mapError Failure.cause)

namespace LintRequest

/-- The template of a request. -/
def findTemplate {m : Type → Type} [Monad m] (host : Host m) (request : LintRequest) :
    m (Except Failure Template) := do
  return (← Registry.loadOrBuiltIn host request.templatePath).bind (·.require request.template)

/-- What checking a document comes to where the search for the template came to `found`: to
    the report on the violations that checking within the limit of the request finds. -/
def outcomeOn (request : LintRequest) (document : Document) :
    Except Failure Template → Option (Except Cause Report)
  | .error failure => some (.error failure.cause)
  | .ok template =>
    (checkWithin request.timeout request.checker template.sections document).map fun result =>
      (result.map Report.ofViolations).mapError Failure.cause

/-- The name of the file shows in the contexts of a failure alone. -/
theorem outcome_report? (request : LintRequest) (template : Template) (document : Document) :
    outcome (request.report? template document) = request.outcomeOn document (.ok template) := by
  unfold report? outcome outcomeOn
  rw [Option.map_map]
  apply Option.map_congr
  intro result hresult
  cases result with
  | error failure => rfl
  | ok violations => rfl

section
variable {m : Type → Type} [Monad m] [LawfulMonad m] {host : Host m} {request : LintRequest}

theorem readDocument_of_fetchText {text : String} {document : Document}
    (hfetch : host.fetchText request.file = pure (.ok text))
    (hparse : (Location.documentFormat request.file).parse text = .ok document) :
    request.readDocument host = pure (.ok document) := by
  unfold readDocument
  rw [hfetch, pure_bind]
  exact congrArg pure hparse

/-- A file whose document has been read comes to what checking the document comes to. -/
theorem outcome_run {document : Document}
    (hread : request.readDocument host = pure (.ok document)) :
    outcome <$> request.run host = request.outcomeOn document <$> request.findTemplate host := by
  unfold run findTemplate
  simp only [map_bind, map_pure]
  refine bind_congr fun registry => ?_
  cases registry.bind fun templates => templates.require request.template with
  | error failure => rw [map_pure]; rfl
  | ok template =>
    dsimp only
    rw [hread, pure_bind, map_pure]
    exact congrArg pure (outcome_report? request template document)

end

end LintRequest

/-! ## Both forms -/

/-- **The two forms of a document agree.** A document whose numbers fit and that has at
    most fifty levels of sections is read back from its JSON form, whether that is written
    on one line, on many, or by someone else. The outline of a source that fits into memory
    is such a document and has at most six levels. So if one file holds a source and
    another one the JSON form of its outline, then checking either against a template with
    a checker comes to the same: to the report on what checking the outline within the limit
    finds, once the template has been found. -/
theorem document_forms_agree :
    (∀ document : Document, document.IsSized → levelsOf document.sections ≤ 50 →
      document.IsWrittenAs (Json.compact document.toJson) ∧
      document.IsWrittenAs (Json.pretty document.toJson) ∧
      ∀ text, document.IsWrittenAs text → DocumentFormat.json.parse text = .ok document) ∧
    (∀ source : String,
      DocumentFormat.markdown.parse source = .ok (Markdown.outline source) ∧
      levelsOf (Markdown.outline source).sections ≤ 6 ∧
      (Text.byteLength source.toList < 2 ^ 63 → (Markdown.outline source).IsSized)) ∧
    ∀ (m : Type → Type) [Monad m] [LawfulMonad m] (host : Host m) (request : LintRequest)
      (file source text : String),
      Location.documentFormat request.file = .markdown → Location.documentFormat file = .json →
      host.fetchText request.file = pure (.ok source) → host.fetchText file = pure (.ok text) →
      Text.byteLength source.toList < 2 ^ 63 → (Markdown.outline source).IsWrittenAs text →
      outcome <$> { request with file := file }.run host = outcome <$> request.run host ∧
      outcome <$> request.run host =
        request.outcomeOn (Markdown.outline source) <$> request.findTemplate host := by
  refine ⟨fun document hsized hlevels => ?_, fun source => ?_, ?_⟩
  · exact ⟨Document.isWrittenAs_compact hsized hlevels,
      Document.isWrittenAs_pretty hsized hlevels,
      fun text htext => Document.parse_of_isWrittenAs hsized hlevels htext⟩
  · exact ⟨rfl, Markdown.levelsOf_outline_le source, Markdown.outline_isSized⟩
  · intro m _ _ host request file source text hmarkdown hjson hsource htext hlength hwritten
    have hlevels : levelsOf (Markdown.outline source).sections ≤ 50 :=
      Nat.le_trans (Markdown.levelsOf_outline_le source) (by decide)
    have hparse := Document.parse_of_isWrittenAs (Markdown.outline_isSized hlength) hlevels
      hwritten
    have hsourceParse : (Location.documentFormat request.file).parse source
        = .ok (Markdown.outline source) := by
      rw [hmarkdown, DocumentFormat.parse]
    have htextParse : (Location.documentFormat file).parse text
        = .ok (Markdown.outline source) := by
      rw [hjson]
      exact hparse
    have hfirst := LintRequest.readDocument_of_fetchText hsource hsourceParse
    have hsecond : { request with file := file }.readDocument host
        = pure (.ok (Markdown.outline source)) :=
      LintRequest.readDocument_of_fetchText htext htextParse
    have hrun := LintRequest.outcome_run hfirst
    -- The other request has the same template, limit and checker.
    exact ⟨(LintRequest.outcome_run hsecond).trans hrun.symm, hrun⟩

/-- A document that no source has, and a source beside the JSON form of its outline. -/
theorem guide_forms_agree :
    let document : Document :=
      { sections := [{ content := [{ position := Span.zero, lists := some [] }] }]
        preamble := "Say \"hi\".\n" }
    let source := "# Guide\n\nSay *hi*.\n"
    let text := Json.compact (Markdown.outline source).toJson
    let host : Host Id :=
      { readText := fun path =>
          if path = "guide.md" then .ok source
          else if path = "guide.json" then .ok text
          else .error .notFound
        isFile := fun path => path = "guide.md" || path = "guide.json"
        faultOf := fun path =>
          if path = "guide.md" || path = "guide.json" then none else some .notFound
        here := "/"
        settingsDirectory := none
        network := Network.none }
    let request : LintRequest := { file := "guide.md", template := "how-to" }
    DocumentFormat.json.parse (Json.compact document.toJson) = .ok document ∧
      outcome ({ request with file := "guide.json" }.run host)
        = outcome (request.run host) ∧
      outcome (request.run host)
        = request.outcomeOn (Markdown.outline source) (request.findTemplate host) := by
  intro document source text host request
  obtain ⟨hread, hsource, hrun⟩ := document_forms_agree
  have hsized : document.IsSized := by
    have hpoint : Point.zero.IsSized := ⟨by decide, by decide, by decide⟩
    have hspan : Span.zero.IsSized := ⟨hpoint, hpoint⟩
    refine List.forall_mem_singleton.2 (.intro nofun nofun nofun nofun ?_ hspan nofun)
    exact List.forall_mem_singleton.2 ⟨hspan, nofun, nofun, by simp⟩
  have hlength : Text.byteLength source.toList < 2 ^ 63 := by decide
  obtain ⟨-, hlevels, hsmall⟩ := hsource source
  obtain ⟨hwritten, -, -⟩ := hread _ (hsmall hlength) (Nat.le_trans hlevels (by decide))
  constructor
  · obtain ⟨hcompact, -, hparse⟩ := hread document hsized (by decide)
    exact hparse _ hcompact
  · have hfirst : host.fetchText "guide.md" = pure (.ok source) := by
      rw [Host.fetchText, if_neg (by decide +kernel)]
      rfl
    have hsecond : host.fetchText "guide.json" = pure (.ok text) := by
      rw [Host.fetchText, if_neg (by decide +kernel)]
      rfl
    exact hrun Id host request "guide.json" source text (by decide +kernel) (by decide +kernel)
      hfirst hsecond hlength hwritten

end Rubric
