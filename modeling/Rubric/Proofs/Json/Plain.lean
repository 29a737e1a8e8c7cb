/-
  Rubric.Proofs.Json.Plain

  Plain values, written and read again.

  Of members with the same name a reader keeps one, so that a value is what is read from
  its texts if no object in it has a name twice. It has to be nested within the bound, and
  its numbers have to be kept exactly.
-/
import Rubric.Proofs.Json.Fields
import Rubric.Proofs.Json.Spelling

namespace Rubric.Json

mutual

/-- No object in the value has a name twice. -/
def HasDistinctNames : Json → Prop
  | .array items => AllHaveDistinctNames items
  | .object fields => (Fields.names fields).Nodup ∧ MembersHaveDistinctNames fields
  | _ => True

/-- No object in the items has a name twice. -/
def AllHaveDistinctNames : List Json → Prop
  | [] => True
  | x :: xs => x.HasDistinctNames ∧ AllHaveDistinctNames xs

/-- No object in the values of the members has a name twice. -/
def MembersHaveDistinctNames : List (String × Json) → Prop
  | [] => True
  | (_, x) :: xs => x.HasDistinctNames ∧ MembersHaveDistinctNames xs

end

mutual

/-- A value is read from its own draft, if there is room for it. -/
theorem toJson_ofJson (v : Json) (h : v.HasDistinctNames) {room : Nat} (hroom : v.depth < room) :
    (Draft.ofJson v).toJson room = .ok v := by
  cases v with
  | array items =>
    rw [depth] at hroom
    rw [Draft.ofJson, Draft.toJson, if_neg (by omega),
      toJsonItems_ofJsonItems items h (show depthItems items < room - 1 by omega)]
  | object fields =>
    rw [depth] at hroom
    rw [Draft.ofJson, Draft.toJson, if_neg (by omega),
      toJsonFields_ofJsonFields fields h.2 (by simpa using h.1)
        (show depthFields fields < room - 1 by omega), List.nil_append]
  | _ => rfl

theorem toJsonItems_ofJsonItems (items : List Json) (h : AllHaveDistinctNames items) {room : Nat}
    (hroom : depthItems items < room) :
    Draft.toJsonItems room (Draft.ofJsonItems items) = .ok items := by
  cases items with
  | nil => rfl
  | cons x xs =>
    rw [depthItems] at hroom
    rw [Draft.ofJsonItems, Draft.toJsonItems, toJson_ofJson x h.1 (by omega),
      toJsonItems_ofJsonItems xs h.2 (by omega)]

/-- Members with new names are added to those that were seen. -/
theorem toJsonFields_ofJsonFields (fields : List (String × Json))
    (h : MembersHaveDistinctNames fields) {seen : List (String × Json)}
    (hnames : (Fields.names seen ++ Fields.names fields).Nodup) {room : Nat}
    (hroom : depthFields fields < room) :
    Draft.toJsonFields room seen (Draft.ofJsonFields fields) = .ok (seen ++ fields) := by
  cases fields with
  | nil => rw [List.append_nil]; rfl
  | cons member rest =>
    obtain ⟨name, x⟩ := member
    rw [depthFields] at hroom
    have hnew : name ∉ Fields.names seen := fun hmem =>
      List.disjoint_of_nodup_append hnames hmem List.mem_cons_self
    rw [Draft.ofJsonFields, Draft.toJsonFields, toJson_ofJson x h.1 (by omega)]
    simp only [Fields.insert_of_notMem hnew]
    rw [toJsonFields_ofJsonFields rest h.2 (by simpa [Fields.names] using hnames) (by omega)]
    simp

end

end Rubric.Json
