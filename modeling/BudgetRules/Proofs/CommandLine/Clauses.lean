import BudgetRules.CommandLine.Clauses
import BudgetRules.Proofs.Except
import BudgetRules.Proofs.Rule.Stored
import Mathlib.Data.List.TakeWhile

/-!
# What conditions and actions look like as arguments

An argument is cut at its first two colons and nowhere else.  The parts before them are words of the vocabularies, in
any case and with blanks around them; what stands behind the second colon is the value, letter by letter:

    cutTwice raw = parts ↔ Cut raw parts                                                    (cutTwice_eq_iff)
    readCondition raw = .ok c ↔ ∃ f o, raw = f ++ ":" ++ o ++ ":" ++ c.value ∧ …             (readClauses_exact)
-/

namespace BudgetRules

/-! ## Words -/

namespace Vocabulary

variable {α : Type} [Vocabulary α]

/-- A text that is the word of a member once the blanks around it are gone and it is lower-cased. -/
def Spells (raw : String) (a : α) : Prop :=
  String.ofList (Unicode.lowercase (Unicode.trim raw.toList)) = word a

/-- A member is read from just the texts that spell it. -/
theorem Distinct.read_eq_ok_iff (h : Distinct α) {raw : String} {a : α} : read raw = .ok a ↔ Spells raw a := by
  unfold read Spells
  constructor
  · intro hread
    split at hread
    · next b hb =>
      cases hread
      exact (beq_iff_eq.1 (List.find?_some (p := fun c => word c == _) hb)).symm
    · cases hread
  · intro hspells
    rw [hspells, h a]

end Vocabulary

theorem Condition.read_eq_ok_iff {field operator value : String} {c : Condition} :
    read field operator value = .ok c ↔
      Vocabulary.Spells field c.field ∧ Vocabulary.Spells operator c.operator ∧ c.value = value := by
  rw [← ConditionField.distinct.read_eq_ok_iff, ← ConditionOperator.distinct.read_eq_ok_iff]
  constructor
  · intro h
    obtain ⟨f, hf, h⟩ := exists_ok_of_bind h
    obtain ⟨o, ho, h⟩ := exists_ok_of_bind h
    cases h
    exact ⟨hf, ho, rfl⟩
  · rintro ⟨hf, ho, rfl⟩
    unfold read
    rw [hf, ho]
    rfl

theorem Action.read_eq_ok_iff {field operation value : String} {a : Action} :
    read field operation value = .ok a ↔
      Vocabulary.Spells field a.field ∧ Vocabulary.Spells operation a.operation ∧
        a.value = if a.operation = .clear then "" else value := by
  rw [← ActionField.distinct.read_eq_ok_iff, ← ActionOperation.distinct.read_eq_ok_iff]
  constructor
  · intro h
    obtain ⟨f, hf, h⟩ := exists_ok_of_bind h
    obtain ⟨o, ho, h⟩ := exists_ok_of_bind h
    cases h
    exact ⟨hf, ho, rfl⟩
  · rintro ⟨hf, ho, hv⟩
    unfold read
    rw [hf, ho]
    exact congrArg (fun v => Except.ok (Action.mk a.field a.operation v)) hv.symm

namespace CommandLine

/-! ## Cutting -/

/-- Where a text is cut: at its first two colons, or at the only one, or nowhere. -/
inductive Cut : String → String × Option (String × Option String) → Prop
  | whole {first : String} : ':' ∉ first.toList → Cut first (first, none)
  | once {first second : String} : ':' ∉ first.toList → ':' ∉ second.toList →
      Cut (first ++ ":" ++ second) (first, some (second, none))
  | twice {first second rest : String} : ':' ∉ first.toList → ':' ∉ second.toList →
      Cut (first ++ ":" ++ second ++ ":" ++ rest) (first, some (second, some rest))

theorem bne_colon {cs : List Char} (h : ':' ∉ cs) : ∀ c ∈ cs, decide (c ≠ ':') = true :=
  fun _ hc => decide_eq_true (ne_of_mem_of_not_mem hc h)

theorem cutAtColon_of_not_mem {cs : List Char} (h : ':' ∉ cs) : cutAtColon cs = (cs, none) := by
  unfold cutAtColon
  rw [List.dropWhile_eq_nil_iff.2 (bne_colon h), List.takeWhile_eq_self_iff.2 (bne_colon h)]

theorem cutAtColon_append {cs : List Char} (h : ':' ∉ cs) (r : List Char) :
    cutAtColon (cs ++ ':' :: r) = (cs, some r) := by
  unfold cutAtColon
  rw [List.dropWhile_append_of_pos (bne_colon h), List.takeWhile_append_of_pos (bne_colon h),
    List.dropWhile_cons_of_neg (by decide), List.takeWhile_cons_of_neg (by decide), List.append_nil]

theorem Cut.cutTwice {raw : String} {parts : String × Option (String × Option String)} (h : Cut raw parts) :
    cutTwice raw = parts := by
  unfold CommandLine.cutTwice
  cases h with
  | whole h => simp [cutAtColon_of_not_mem h]
  | once h h' => simp [cutAtColon_append h, cutAtColon_of_not_mem h']
  | twice h h' => simp [cutAtColon_append h, cutAtColon_append h']

/-- A text without a colon, or one with its first colon. -/
theorem exists_first_colon (raw : String) :
    ':' ∉ raw.toList ∨ ∃ first rest : String, ':' ∉ first.toList ∧ raw = first ++ ":" ++ rest := by
  by_cases h : ':' ∈ raw.toList
  · obtain ⟨a, r, hraw, ha⟩ := List.eq_append_cons_of_mem h
    refine .inr ⟨String.ofList a, String.ofList r, by rwa [String.toList_ofList], ?_⟩
    rw [← String.toList_inj, hraw]
    simp
  · exact .inl h

theorem exists_cut (raw : String) : ∃ parts, Cut raw parts := by
  rcases exists_first_colon raw with h | ⟨first, rest, hfirst, rfl⟩
  · exact ⟨_, .whole h⟩
  rcases exists_first_colon rest with h | ⟨second, rest, hsecond, rfl⟩
  · exact ⟨_, .once hfirst h⟩
  · refine ⟨(first, some (second, some rest)), ?_⟩
    rw [← String.append_assoc, ← String.append_assoc]
    exact .twice hfirst hsecond

theorem cutTwice_eq_iff {raw : String} {parts : String × Option (String × Option String)} :
    CommandLine.cutTwice raw = parts ↔ Cut raw parts := by
  refine ⟨?_, Cut.cutTwice⟩
  rintro rfl
  obtain ⟨parts, h⟩ := exists_cut raw
  rwa [h.cutTwice]

/-! ## Reading -/

theorem readCondition_eq_ok_iff {raw : String} {c : Condition} :
    readCondition raw = .ok c ↔
      ∃ field operator value, Cut raw (field, some (operator, some value)) ∧
        Condition.read field operator value = .ok c := by
  unfold readCondition
  constructor
  · intro h
    split at h
    · next field operator value hcut =>
      split at h
      · next hread =>
        cases h
        exact ⟨field, operator, value, cutTwice_eq_iff.1 hcut, hread⟩
      · cases h
    · cases h
  · rintro ⟨field, operator, value, hcut, hread⟩
    simp only [hcut.cutTwice, hread]

theorem readAction_eq_ok_iff {raw : String} {a : Action} :
    readAction raw = .ok a ↔
      ∃ field operation value, Cut raw (field, some (operation, value)) ∧
        Action.read field operation (value.getD "") = .ok a := by
  unfold readAction
  constructor
  · intro h
    split at h
    · next field operation value hcut =>
      split at h
      · next hread =>
        cases h
        exact ⟨field, operation, value, cutTwice_eq_iff.1 hcut, hread⟩
      · cases h
    · cases h
  · rintro ⟨field, operation, value, hcut, hread⟩
    simp only [hcut.cutTwice, hread]

/-- A condition is read from just the texts with two words, each followed by a colon, and its value behind them; an
action from those with two words and perhaps another colon and a value, which `clear` drops. -/
theorem readClauses_exact (raw : String) :
    (∀ c, readCondition raw = .ok c ↔
      ∃ field operator, raw = field ++ ":" ++ operator ++ ":" ++ c.value ∧
        ':' ∉ field.toList ∧ ':' ∉ operator.toList ∧
        Vocabulary.Spells field c.field ∧ Vocabulary.Spells operator c.operator) ∧
    (∀ a, readAction raw = .ok a ↔
      ∃ field operation value,
        (raw = field ++ ":" ++ operation ∧ value = "" ∨ raw = field ++ ":" ++ operation ++ ":" ++ value) ∧
        ':' ∉ field.toList ∧ ':' ∉ operation.toList ∧
        Vocabulary.Spells field a.field ∧ Vocabulary.Spells operation a.operation ∧
        a.value = if a.operation = .clear then "" else value) := by
  refine ⟨fun c => ?_, fun a => ?_⟩
  · rw [readCondition_eq_ok_iff]
    constructor
    · rintro ⟨field, operator, value, hcut, hread⟩
      obtain ⟨hfield, hoperator, rfl⟩ := Condition.read_eq_ok_iff.1 hread
      cases hcut with
      | twice hf ho => exact ⟨field, operator, rfl, hf, ho, hfield, hoperator⟩
    · rintro ⟨field, operator, rfl, hf, ho, hfield, hoperator⟩
      exact ⟨field, operator, c.value, .twice hf ho, Condition.read_eq_ok_iff.2 ⟨hfield, hoperator, rfl⟩⟩
  · rw [readAction_eq_ok_iff]
    constructor
    · rintro ⟨field, operation, value, hcut, hread⟩
      obtain ⟨hfield, hoperation, hvalue⟩ := Action.read_eq_ok_iff.1 hread
      cases hcut with
      | once hf ho => exact ⟨field, operation, "", .inl ⟨rfl, rfl⟩, hf, ho, hfield, hoperation, hvalue⟩
      | @twice _ _ rest hf ho => exact ⟨field, operation, rest, .inr rfl, hf, ho, hfield, hoperation, hvalue⟩
    · rintro ⟨field, operation, value, ⟨rfl, rfl⟩ | rfl, hf, ho, hfield, hoperation, hvalue⟩
      · exact ⟨field, operation, none, .once hf ho, Action.read_eq_ok_iff.2 ⟨hfield, hoperation, hvalue⟩⟩
      · exact ⟨field, operation, some value, .twice hf ho, Action.read_eq_ok_iff.2 ⟨hfield, hoperation, hvalue⟩⟩

example : readCondition " Memo:STARTS_WITH: a:b" = .ok ⟨.memo, .startsWith, " a:b"⟩ := by cbv

example : readAction "memo:Clear :x" = .ok ⟨.memo, .clear, ""⟩ := by cbv

end CommandLine

end BudgetRules
