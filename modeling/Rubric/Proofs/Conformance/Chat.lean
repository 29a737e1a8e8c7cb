/-
  Rubric.Proofs.Conformance.Chat

  What a language model is asked, and what its replies say.

  Texts of a document are quoted twice on their way into a request, once as strings of the
  question and once more as the content of a message. Both can be taken off again, so that
  whatever a text has in it, it stays a text. Of the replies only those count that are one
  JSON value, of one of the two ways to write an assessment. All others are failures.
-/
import Rubric.Conformance.ChatChecker
import Rubric.Proofs.Json.Document
import Rubric.Proofs.Json.Plain

namespace Rubric

namespace ChatChecker

open Rubric.Json

/-! ## Requests -/

/-- The word for a judgement. -/
def Judgement.word : Judgement → String
  | .pass => "pass"
  | .fail => "fail"

/-- A value names a judgement: it is the word for it, or an object that has the word for its
    only member, with null under it. -/
def Names (d : Draft) (j : Judgement) : Prop :=
  d = .string (some j.word) ∨ d = .object [(j.word, .null)] none

/-- A value is an explanation: a string, or null for none. -/
inductive Explains : Draft → Option String → Prop
  | null : Explains .null none
  | text (s : String) : Explains (.string (some s)) (some s)

/-- One value at most is given, and it means `x`; where none is given, `x` is as before. -/
inductive Settles {α : Type} (means : Draft → α → Prop) (before : α) : List Draft → α → Prop
  | absent : Settles means before [] before
  | given {d : Draft} {x : α} (h : means d x) : Settles means before [d] x

theorem settles_nil_iff {α : Type} {means : Draft → α → Prop} {before x : α} :
    Settles means before [] x ↔ x = before := by
  constructor
  · rintro ⟨⟩
    rfl
  · rintro rfl
    exact .absent

theorem settles_cons_iff {α : Type} {means : Draft → α → Prop} {before x : α} {d : Draft}
    {ds : List Draft} : Settles means before (d :: ds) x ↔ means d x ∧ ds = [] := by
  constructor
  · rintro ⟨⟩
    exact ⟨‹_›, rfl⟩
  · rintro ⟨h, rfl⟩
    exact .given h

theorem variant_eq_ok_iff {name : String} {j : Judgement} :
    variant [("pass", Judgement.pass), ("fail", Judgement.fail)] name = .ok j ↔
      name = j.word := by
  by_cases hpass : name = "pass"
  · subst hpass
    cases j <;> simp [variant, Judgement.word]
  · by_cases hfail : name = "fail"
    · subst hfail
      cases j <;> simp [variant, Judgement.word]
    · have hnone : [("pass", Judgement.pass), ("fail", Judgement.fail)].find?
          (fun entry => entry.1 == name) = none := by
        simp [Ne.symm hpass, Ne.symm hfail]
      cases j <;> simp [variant, hnone, Judgement.word, hpass, hfail]

theorem read_judgement_eq_ok_iff {room : Nat} (hroom : 1 < room) {d : Draft} {j : Judgement} :
    readVariant .text [("pass", Judgement.pass), ("fail", Judgement.fail)] room d = .ok j ↔
      Names d j := by
  simp only [readVariant_text_eq_ok_iff hroom, variant_eq_ok_iff, exists_eq_left, Names]

theorem read_explanation_eq_ok_iff {room : Nat} {d : Draft} {x : Option String} :
    readOption readText room d = .ok x ↔ Explains d x := by
  rw [readOption_eq_ok_iff]
  constructor
  · rintro (⟨rfl, rfl⟩ | ⟨-, s, hread, rfl⟩)
    · exact .null
    · obtain rfl := readText_eq_ok_iff.1 hread
      exact .text s
  · rintro (_ | s)
    · exact .inl ⟨rfl, rfl⟩
    · exact .inr ⟨Draft.noConfusion, s, rfl, rfl⟩

/-! ## Members -/

section Members

variable {α : Type} {means : Draft → α → Prop} {seen : List String} {name : String}
  {before after : α} {d : Draft} {rest : List (String × Draft)}

/-- A field is read from members: it is not among those that were met before, and it is
    settled by what stands under its name. -/
def IsRead (means : Draft → α → Prop) (seen : List String) (name : String) (before : α)
    (fields : List (String × Draft)) (after : α) : Prop :=
  (name ∈ seen → Fields.allUnder name fields = []) ∧
    Settles means before (Fields.allUnder name fields) after

theorem isRead_nil_iff : IsRead means seen name before [] after ↔ after = before :=
  (and_iff_right fun _ => rfl).trans settles_nil_iff

/-- The member of the field settles it, if it was not met before and is not met again. -/
theorem isRead_cons_self_iff :
    IsRead means seen name before ((name, d) :: rest) after ↔
      name ∉ seen ∧ ∃ x, means d x ∧ IsRead means (name :: seen) name x rest after := by
  unfold IsRead
  rw [Fields.allUnder_cons, if_pos rfl, settles_cons_iff]
  constructor
  · rintro ⟨hseen, hmeans, hnone⟩
    refine ⟨fun hmem => List.cons_ne_nil _ _ (hseen hmem), after, hmeans, fun _ => hnone, ?_⟩
    rw [hnone]
    exact .absent
  · rintro ⟨hseen, x, hmeans, hnone, hsettles⟩
    have hnone := hnone List.mem_cons_self
    rw [hnone, settles_nil_iff] at hsettles
    subst hsettles
    exact ⟨fun hmem => absurd hmem hseen, hmeans, hnone⟩

/-- Members of other names say nothing about the field. -/
theorem isRead_cons_iff {other : String} (hother : other ≠ name) :
    IsRead means seen name before ((other, d) :: rest) after ↔
      IsRead means seen name before rest after := by
  rw [IsRead, Fields.allUnder_cons, if_neg hother, IsRead]

theorem isRead_seen_iff {other : String} (hother : other ≠ name) {fields : List (String × Draft)} :
    IsRead means (other :: seen) name before fields after ↔
      IsRead means seen name before fields after := by
  rw [IsRead, List.mem_cons, or_iff_right (Ne.symm hother), IsRead]

end Members

theorem field?_assessment :
    assessmentLayout.field? "assessment" = some (.of "assessment" .required
      (readVariant .text [("pass", .pass), ("fail", .fail)])
      fun x a => { a with judgement := x }) := rfl

theorem field?_explanation :
    assessmentLayout.field? "explanation" = some (.of "explanation" .defaulted
      (readOption readText) fun x a => { a with explanation := x }) := rfl

theorem field?_eq_none {name : String} (hassessment : name ≠ "assessment")
    (hexplanation : name ≠ "explanation") : assessmentLayout.field? name = none := by
  simp [Layout.field?, assessmentLayout, Field.of, Ne.symm hassessment, Ne.symm hexplanation]

/-- **Reading members reads the two fields**, wherever they stand, if there are no mistakes in
    what is passed over. -/
theorem readMembers_eq_ok_iff {room : Nat} (hroom : 1 < room) {fields : List (String × Draft)}
    (hskip : skipFields fields = .ok ()) {seen : List String} {s t : Assessment} :
    (∃ seen', assessmentLayout.readMembers room fields seen s = .ok (seen', t)) ↔
      IsRead Names seen "assessment" s.judgement fields t.judgement ∧
        IsRead Explains seen "explanation" s.explanation fields t.explanation := by
  have hdistinct : "assessment" ≠ "explanation" := by decide
  -- From member to member `seen` gets the field and `s` what was read for it.
  induction fields generalizing seen s with
  | nil =>
    rw [isRead_nil_iff, isRead_nil_iff]
    obtain ⟨j, x⟩ := s
    obtain ⟨j', x'⟩ := t
    simp [Layout.readMembers, eq_comm]
  | cons member rest ih =>
    obtain ⟨name, d⟩ := member
    obtain ⟨hfirst, hrest⟩ := skipFields_cons_eq_ok_iff.1 hskip
    by_cases hassessment : name = "assessment"
    · subst hassessment
      simp only [Layout.readMembers_field_eq_ok_iff field?_assessment,
        read_judgement_eq_ok_iff hroom, isRead_cons_self_iff, isRead_cons_iff hdistinct]
      constructor
      · rintro ⟨seen', hseen, j, hj, hread⟩
        obtain ⟨hjudgement, hexplanation⟩ := (ih hrest).1 ⟨seen', hread⟩
        exact ⟨⟨hseen, j, hj, hjudgement⟩, (isRead_seen_iff hdistinct).1 hexplanation⟩
      · rintro ⟨⟨hseen, j, hj, hjudgement⟩, hexplanation⟩
        obtain ⟨seen', hread⟩ := (ih hrest (s := ⟨j, s.explanation⟩)).2
          ⟨hjudgement, (isRead_seen_iff hdistinct).2 hexplanation⟩
        exact ⟨seen', hseen, j, hj, hread⟩
    by_cases hexplanation : name = "explanation"
    · subst hexplanation
      simp only [Layout.readMembers_field_eq_ok_iff field?_explanation,
        read_explanation_eq_ok_iff, isRead_cons_self_iff, isRead_cons_iff (Ne.symm hdistinct)]
      constructor
      · rintro ⟨seen', hseen, x, hx, hread⟩
        obtain ⟨hjudgement, hexplanation⟩ := (ih hrest).1 ⟨seen', hread⟩
        exact ⟨(isRead_seen_iff (Ne.symm hdistinct)).1 hjudgement, hseen, x, hx, hexplanation⟩
      · rintro ⟨hjudgement, hseen, x, hx, hexplanation⟩
        obtain ⟨seen', hread⟩ := (ih hrest (s := ⟨s.judgement, x⟩)).2
          ⟨(isRead_seen_iff (Ne.symm hdistinct)).2 hjudgement, hexplanation⟩
        exact ⟨seen', hseen, x, hx, hread⟩
    · simp only [Layout.readMembers_other (field?_eq_none hassessment hexplanation) rfl hfirst,
        isRead_cons_iff hassessment, isRead_cons_iff hexplanation]
      exact ih hrest

/-! ## Assessments are read -/

end ChatChecker

end Rubric
