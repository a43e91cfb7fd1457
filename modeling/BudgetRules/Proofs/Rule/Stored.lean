import BudgetRules.Proofs.Json.Decode
import BudgetRules.Rule.Stored

/-!
# Stored rules are read back

Every field of a rule is written, none is left to its default, and each is decoded as it was:

    Rule.readList (Rule.listToJson rules).pretty = .ok (rules.map Rule.stored)        (Rule.readList_pretty)
-/

namespace BudgetRules

open Json

/-! ## Words -/

theorem ConditionField.distinct : Vocabulary.Distinct ConditionField := by
  intro f; cases f <;> rfl

theorem ConditionOperator.distinct : Vocabulary.Distinct ConditionOperator := by
  intro o; cases o <;> rfl

theorem ActionField.distinct : Vocabulary.Distinct ActionField := by
  intro f; cases f <;> rfl

theorem ActionOperation.distinct : Vocabulary.Distinct ActionOperation := by
  intro o; cases o <;> rfl

theorem LogicOperator.distinct : Vocabulary.Distinct LogicOperator := by
  intro l; cases l <;> rfl

/-! ## Conditions and actions -/

theorem Condition.decoder_toJson (c : Condition) {depth : Nat} (h : 1 < depth) :
    Condition.decoder depth (Tree.ofJson c.toJson) = .ok c := by
  have hparts : Decoder.struct "Condition" fields ⟨none, none, none⟩ depth (Tree.ofJson c.toJson) =
      .ok ⟨some c.field, some c.operator, some c.value⟩ := by
    refine Decoder.struct_object h ?_
    simp only [Members.ofJson]
    rw [Members.decodeFields_member rfl rfl (Field.read_of (ConditionField.distinct.decoder_toJson _ _) _),
      Members.decodeFields_member rfl rfl (Field.read_of (ConditionOperator.distinct.decoder_toJson _ _) _),
      Members.decodeFields_member rfl rfl (Field.read_of rfl _)]
    rfl
  unfold decoder
  rw [hparts]
  rfl

theorem Action.decoder_toJson (a : Action) {depth : Nat} (h : 1 < depth) :
    Action.decoder depth (Tree.ofJson a.toJson) = .ok a := by
  have hparts : Decoder.struct "Action" fields ⟨none, none, none⟩ depth (Tree.ofJson a.toJson) =
      .ok ⟨some a.field, some a.operation, some a.value⟩ := by
    refine Decoder.struct_object h ?_
    simp only [Members.ofJson]
    rw [Members.decodeFields_member rfl rfl (Field.read_of (ActionField.distinct.decoder_toJson _ _) _),
      Members.decodeFields_member rfl rfl (Field.read_of (ActionOperation.distinct.decoder_toJson _ _) _),
      Members.decodeFields_member rfl rfl (Field.read_of rfl _)]
    rfl
  unfold decoder
  rw [hparts]
  rfl

theorem Condition.readable_toJson (c : Condition) : c.toJson.Readable := ⟨trivial, trivial, trivial, trivial⟩

theorem Action.readable_toJson (a : Action) : a.toJson.Readable := ⟨trivial, trivial, trivial, trivial⟩

/-! ## Rules -/

namespace Rule

/-- A rule as it is read back. -/
def stored (r : Rule) : StoredRule := ⟨some r.id, r.toRuleDraft⟩

theorem readable_toJson (r : Rule) : r.toJson.Readable := by
  have hconditions : ReadableItems (r.conditions.map Condition.toJson) :=
    readableItems_iff.2 (List.forall_mem_map.2 fun c _ => c.readable_toJson)
  have hactions : ReadableItems (r.actions.map Action.toJson) :=
    readableItems_iff.2 (List.forall_mem_map.2 fun a _ => a.readable_toJson)
  exact ⟨trivial, trivial, trivial, hconditions, hactions, trivial,
    Number.readable_int (fits_int64 r.priority), trivial, trivial⟩

/-- A rule needs room for the object, a list in it and the objects in that. -/
theorem decoder_toJson (r : Rule) {depth : Nat} (h : 3 < depth) :
    StoredRule.decoder depth (Tree.ofJson r.toJson) = .ok r.stored := by
  have hconditions : Decoder.list Condition.decoder (depth - 1)
      (Tree.ofJson (.arr (r.conditions.map Condition.toJson))) = .ok r.conditions := by
    rw [Decoder.list_ofJson (by omega) fun c _ => c.decoder_toJson (by omega), List.map_id']
  have hactions : Decoder.list Action.decoder (depth - 1)
      (Tree.ofJson (.arr (r.actions.map Action.toJson))) = .ok r.actions := by
    rw [Decoder.list_ofJson (by omega) fun a _ => a.decoder_toJson (by omega), List.map_id']
  have hparts : Decoder.struct "Rule" StoredRule.fields .empty depth (Tree.ofJson r.toJson) =
      .ok ⟨some r.id, some r.name, some r.description, some r.conditions, some r.actions, some r.enabled,
        some r.priority, some r.logic⟩ := by
    refine Decoder.struct_object (by omega) ?_
    simp only [Members.ofJson]
    rw [Members.decodeFields_member rfl rfl (Field.read_of rfl _),
      Members.decodeFields_member rfl rfl (Field.read_of rfl _),
      Members.decodeFields_member rfl rfl (Field.read_of rfl _),
      Members.decodeFields_member rfl rfl (Field.read_of hconditions _),
      Members.decodeFields_member rfl rfl (Field.read_of hactions _),
      Members.decodeFields_member rfl rfl (Field.read_of rfl _),
      Members.decodeFields_member rfl rfl (Field.read_of (Decoder.int64_ofJson _ _) _),
      Members.decodeFields_member rfl rfl (Field.read_of (LogicOperator.distinct.decoder_toJson _ _) _)]
    rfl
  unfold StoredRule.decoder
  rw [hparts]
  rfl

/-- A list of rules that has been written is read back. -/
theorem readList_pretty (rules : List Rule) :
    Rule.readList (listToJson rules).pretty = .ok (rules.map stored) := by
  have hreadable : (listToJson rules).Readable :=
    readableItems_iff.2 (List.forall_mem_map.2 fun r _ => r.readable_toJson)
  unfold Rule.readList
  rw [decodeText_pretty _ hreadable]
  exact Decoder.list_ofJson (by decide) fun r _ => r.decoder_toJson (by decide)

end Rule

end BudgetRules
