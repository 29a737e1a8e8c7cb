/-
  Rubric.Proofs.Template.Message

  Where the messages about an entry point.

  A message starts with a dotted path. What is wrong with the shape of an entry is
  reported at the entry itself, what is wrong with its patterns and its sequence at
  one of its fields. Every function that takes part in reading an entry adds its own
  piece to the path that it is given, and `IsFieldPath` lists what comes of this below
  an entry. No such piece leads into the table of the entry.
-/
import Rubric.Template.Schema

namespace Rubric

/-- The text of the failure starts with the path, and goes on with what is wrong there. -/
def Failure.PointsTo (e : Failure) (path : String) : Prop :=
  ∃ detail, e.chain.head? = some (path ++ ": " ++ detail)

theorem Failure.pointsTo_ofText {text path : String} (detail : String)
    (h : text = path ++ (": " ++ detail)) : (Failure.ofText text).PointsTo path :=
  ⟨detail, by rw [h, ← String.append_assoc]; rfl⟩

namespace Schema

open Rubric.Json

/-- The way from an entry to what is judged with it, as messages write it behind the path of
    the entry. -/
inductive IsFieldPath : String → Prop
  | entry : IsFieldPath ""
  | heading : IsFieldPath ".heading.pattern"
  | paragraphs (i : Nat) : IsFieldPath s!".paragraphs.patterns[{i}]"
  | sequence : IsFieldPath ".sequence"
  | slot (i : Nat) : IsFieldPath s!".sequence[{i}]"
  | slotParagraphs (i j : Nat) : IsFieldPath s!".sequence[{i}].paragraphs.patterns[{j}]"

/-- The text of the failure starts with the path of an entry, followed by the way to one of
    the fields that are judged with it. -/
def PointsInto (e : Failure) (path : String) : Prop :=
  ∃ field, IsFieldPath field ∧ e.PointsTo (path ++ field)

theorem pointsInto_of_pointsTo {e : Failure} {path : String} (h : e.PointsTo path) :
    PointsInto e path :=
  ⟨"", .entry, by rwa [String.append_empty]⟩

/-! ## Shapes and patterns -/

variable {regex : Regex.Compiler}

theorem readAt_error {α : Type} {path : String} {read : Reader α} {v : Json} {e : Failure}
    (h : readAt path read v = .error e) : e.PointsTo path := by
  rw [readAt] at h
  split at h
  · cases h
  · obtain rfl := Except.error.inj h
    exact Failure.pointsTo_ofText _ (String.append_assoc ..)

theorem compile_error {path text : String} {e : Failure} (h : compile regex path text = .error e) :
    e.PointsTo path := by
  rw [compile] at h
  split at h
  · cases h
  · obtain rfl := Except.error.inj h
    have hsplit : ": invalid regex \"" = ": " ++ "invalid regex \"" := rfl
    refine ⟨"invalid regex \"" ++ text ++ "\"", ?_⟩
    show some (path ++ ": invalid regex \"" ++ text ++ "\"") = _
    simp only [hsplit, String.append_assoc]

theorem compileAll_error {path : String} {index : Nat} {texts : List String} {e : Failure}
    (h : compileAll regex path index texts = .error e) :
    ∃ i : Nat, e.PointsTo (path ++ (".patterns[" ++ toString i ++ "]")) := by
  induction texts generalizing index with
  | nil => cases h
  | cons text rest ih =>
    rw [compileAll] at h
    split at h
    next e hfirst =>
      obtain rfl := Except.error.inj h
      have hindex : e.PointsTo (path ++ ".patterns[" ++ toString index ++ "]") :=
        compile_error hfirst
      exact ⟨index, by simpa only [String.append_assoc] using hindex⟩
    split at h
    next e hrest =>
      obtain rfl := Except.error.inj h
      exact ih hrest
    next => cases h

theorem ParagraphEntry.toRule_error {path : String} {entry : ParagraphEntry} {e : Failure}
    (h : entry.toRule regex s!"{path}.paragraphs" = .error e) :
    ∃ i : Nat, e.PointsTo (path ++ s!".paragraphs.patterns[{i}]") := by
  rw [toRule] at h
  split at h
  next e hpatterns =>
    obtain rfl := Except.error.inj h
    obtain ⟨i, hi⟩ := compileAll_error hpatterns
    have hjoined : e.PointsTo (path ++ ".paragraphs" ++ (".patterns[" ++ toString i ++ "]")) := hi
    refine ⟨i, ?_⟩
    show e.PointsTo (path ++ (".paragraphs" ++ ".patterns[" ++ toString i ++ "]"))
    simpa only [String.append_assoc] using hjoined
  next => cases h

/-! ## Headings and sequences -/

theorem HeadingEntry.toRule_error {path : String} {entry : HeadingEntry} {e : Failure}
    (h : entry.toRule regex path = .error e) : e.PointsTo (path ++ ".heading.pattern") := by
  rw [toRule] at h
  split at h
  next => cases h
  split at h
  next e hpattern =>
    obtain rfl := Except.error.inj h
    exact compile_error hpattern
  next => cases h

theorem SlotEntry.toSlot_error {path : String} {entry : SlotEntry} {e : Failure}
    (h : entry.toSlot regex path = .error e) :
    e.PointsTo path ∨ ∃ i : Nat, e.PointsTo (path ++ s!".paragraphs.patterns[{i}]") := by
  rw [toSlot] at h
  split at h
  next =>
    split at h
    next e hrule =>
      obtain rfl := Except.error.inj h
      exact Or.inr (ParagraphEntry.toRule_error hrule)
    next => cases h
  next => cases h
  next => cases h
  next =>
    obtain rfl := Except.error.inj h
    exact Or.inl (Failure.pointsTo_ofText
      "must declare exactly one of `paragraphs`, `code_blocks` or `lists`" rfl)

theorem toSlots_error {path : String} {index : Nat} {entries : List SlotEntry} {e : Failure}
    (h : toSlots regex path index entries = .error e) : PointsInto e path := by
  induction entries generalizing index with
  | nil => cases h
  | cons entry rest ih =>
    rw [toSlots] at h
    split at h
    next e hfirst =>
      obtain rfl := Except.error.inj h
      rcases SlotEntry.toSlot_error hfirst with hslot | ⟨i, hpattern⟩
      · have hslot : e.PointsTo (path ++ ".sequence[" ++ toString index ++ "]") := hslot
        refine ⟨_, .slot index, ?_⟩
        show e.PointsTo (path ++ (".sequence[" ++ toString index ++ "]"))
        simpa only [String.append_assoc] using hslot
      · have hpattern : e.PointsTo (path ++ ".sequence[" ++ toString index ++ "]"
            ++ (".paragraphs.patterns[" ++ toString i ++ "]")) := hpattern
        refine ⟨_, .slotParagraphs index i, ?_⟩
        show e.PointsTo (path ++ (".sequence[" ++ toString index
          ++ ("]" ++ ".paragraphs.patterns[") ++ toString i ++ "]"))
        simpa only [String.append_assoc] using hpattern
    split at h
    next e hrest =>
      obtain rfl := Except.error.inj h
      exact ih hrest
    next => cases h

theorem toSequence_error {path : String} {entries : List SlotEntry} {e : Failure}
    (h : toSequence regex path entries = .error e) : PointsInto e path := by
  rw [toSequence] at h
  split at h
  · obtain rfl := Except.error.inj h
    refine ⟨_, .sequence, Failure.pointsTo_ofText "must contain at least one item" ?_⟩
    show path ++ (".sequence" ++ ": " ++ "must contain at least one item") = _
    simp only [String.append_assoc]
  · exact toSlots_error h

theorem checkOption_error {α β : Type} {check : α → Except Failure β} {x : Option α}
    {e : Failure} (h : checkOption check x = .error e) : ∃ y, check y = .error e := by
  rw [checkOption.eq_def] at h
  split at h
  next => cases h
  next y =>
    split at h
    next e herror =>
      obtain rfl := Except.error.inj h
      exact ⟨y, herror⟩
    next => cases h

/-- What is wrong with an entry that has the right shape is reported at the entry or at one of
    its fields. -/
theorem SectionEntry.toRule_error {path : String} {entry : SectionEntry} {e : Failure}
    (h : entry.toRule regex path = .error e) : PointsInto e path := by
  rw [toRule] at h
  split at h
  next =>
    obtain rfl := Except.error.inj h
    exact pointsInto_of_pointsTo (Failure.pointsTo_ofText
      "`sequence` cannot be combined with `paragraphs`, `code_blocks` or `lists`" rfl)
  split at h
  next e hheading =>
    obtain rfl := Except.error.inj h
    obtain ⟨_, herror⟩ := checkOption_error hheading
    exact ⟨_, .heading, HeadingEntry.toRule_error herror⟩
  split at h
  next e hparagraphs =>
    obtain rfl := Except.error.inj h
    obtain ⟨_, herror⟩ := checkOption_error hparagraphs
    obtain ⟨i, hi⟩ := ParagraphEntry.toRule_error herror
    exact ⟨_, .paragraphs i, hi⟩
  split at h
  next e hsequence =>
    obtain rfl := Except.error.inj h
    obtain ⟨_, herror⟩ := checkOption_error hsequence
    exact toSequence_error herror
  next => cases h

end Schema

end Rubric
