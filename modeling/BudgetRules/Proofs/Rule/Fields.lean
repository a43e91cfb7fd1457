import BudgetRules.Proofs.Record.Comparison
import BudgetRules.Rule

/-!
# Fields that rules look at and write

Whether a draft holds is a matter of the fields that its conditions look at, and for these a null is as good as
nothing.  Its actions leave a field alone unless one of them writes it; then it holds a text afterwards, which
hangs on the text that was there and on nothing else in the record:

    (∀ k, d.Reads k → r.present? k = s.present? k) → d.holds r = d.holds s                        (holds_congr)
    ¬d.Writes k → (d.applyActions r).get? k = r.get? k                                      (get?_applyActions)
    d.Writes k → (d.applyActions r).get? k = some (.text (d.textAfter k (r.textOrEmpty k)))
                                                                                  (get?_applyActions_of_writes)
-/

namespace BudgetRules

theorem Action.textOrEmpty_apply (a : Action) (r : Record) (k : String) :
    (a.apply r).textOrEmpty k =
      if a.field.name = k then a.newText (r.textOrEmpty k) else r.textOrEmpty k := by
  unfold apply
  rw [Record.textOrEmpty_set]
  by_cases hk : a.field.name = k
  · subst hk
    rw [if_pos rfl, if_pos rfl]
    rfl
  · rw [if_neg (Ne.symm hk), if_neg hk]

namespace RuleDraft

variable {d : RuleDraft} {r s : Record} {k : String}

/-- Does a condition of a draft look at a field? -/
def Reads (d : RuleDraft) (field : String) : Prop := ∃ c ∈ d.conditions, c.field.name = field

/-- Has a draft an action for a field? -/
def Writes (d : RuleDraft) (field : String) : Prop := ∃ a ∈ d.actions, a.field.name = field

instance (d : RuleDraft) (field : String) : Decidable (d.Reads field) :=
  inferInstanceAs (Decidable (∃ c ∈ d.conditions, _))

instance (d : RuleDraft) (field : String) : Decidable (d.Writes field) :=
  inferInstanceAs (Decidable (∃ a ∈ d.actions, _))

/-! ## Conditions -/

/-- Whether a draft holds is a matter of the fields that it looks at. -/
theorem holds_congr (h : ∀ k, d.Reads k → r.present? k = s.present? k) : d.holds r = d.holds s := by
  have hc : ∀ c ∈ d.conditions, c.holds r = c.holds s := by
    intro c hc
    unfold Condition.holds
    rw [h c.field.name ⟨c, hc, rfl⟩]
  unfold holds
  split
  · rfl
  · split
    · rw [Bool.eq_iff_iff, List.all_eq_true, List.all_eq_true]
      exact forall₂_congr fun c hm => by rw [hc c hm]
    · rw [Bool.eq_iff_iff, List.any_eq_true, List.any_eq_true]
      exact exists_congr fun c => and_congr_right fun hm => by rw [hc c hm]

/-! ## Actions -/

theorem get?_applyActions (h : ¬d.Writes k) (r : Record) : (d.applyActions r).get? k = r.get? k := by
  have hk : ∀ a ∈ d.actions, k ≠ a.field.name := fun a ha heq => h ⟨a, ha, heq.symm⟩
  unfold applyActions
  generalize d.actions = actions at hk
  induction actions generalizing r with
  | nil => rfl
  | cons a rest ih =>
    rw [List.foldl_cons, ih (a.apply r) fun b hb => hk b (List.mem_cons_of_mem a hb)]
    unfold Action.apply
    rw [Record.get?_set, if_neg (hk a List.mem_cons_self)]

/-- The text that the actions of a draft make of the text of a field. -/
def textAfter (d : RuleDraft) (field current : String) : String :=
  d.actions.foldl (fun t a => if a.field.name = field then a.newText t else t) current

theorem textOrEmpty_applyActions (d : RuleDraft) (r : Record) (k : String) :
    (d.applyActions r).textOrEmpty k = d.textAfter k (r.textOrEmpty k) := by
  unfold applyActions textAfter
  induction d.actions generalizing r with
  | nil => rfl
  | cons a rest ih => rw [List.foldl_cons, List.foldl_cons, ih, Action.textOrEmpty_apply]

/-- A field holds a text after actions if it did before or one of them writes it. -/
theorem exists_text_foldl {actions : List Action}
    (h : (∃ t, r.get? k = some (.text t)) ∨ ∃ a ∈ actions, a.field.name = k) :
    ∃ t, (actions.foldl (fun r a => a.apply r) r).get? k = some (.text t) := by
  induction actions generalizing r with
  | nil =>
    rcases h with h | ⟨a, ha, -⟩
    · exact h
    · cases ha
  | cons a rest ih =>
    refine ih ?_
    unfold Action.apply
    rw [Record.get?_set]
    by_cases hk : k = a.field.name
    · exact .inl ⟨_, if_pos hk⟩
    · rw [if_neg hk]
      rcases h with h | ⟨b, hb, hbk⟩
      · exact .inl h
      · rcases List.mem_cons.1 hb with rfl | hb
        · exact absurd hbk.symm hk
        · exact .inr ⟨b, hb, hbk⟩

/-- What the actions of a draft leave in a field that they write. -/
theorem get?_applyActions_of_writes (h : d.Writes k) (r : Record) :
    (d.applyActions r).get? k = some (.text (d.textAfter k (r.textOrEmpty k))) := by
  obtain ⟨t, ht⟩ : ∃ t, (d.applyActions r).get? k = some (.text t) := exists_text_foldl (.inr h)
  have htext : (d.applyActions r).textOrEmpty k = t := by
    rw [Record.textOrEmpty_eq, Record.get?_eq_text_iff.1 ht]
    rfl
  rw [← textOrEmpty_applyActions, htext]
  exact ht

/-- A field comes out of actions alike if it was alike. -/
theorem get?_applyActions_congr_field (h : r.get? k = s.get? k) :
    (d.applyActions r).get? k = (d.applyActions s).get? k := by
  by_cases hk : d.Writes k
  · rw [get?_applyActions_of_writes hk, get?_applyActions_of_writes hk,
      Record.textOrEmpty_congr (Record.present?_congr h)]
  · rw [get?_applyActions hk, get?_applyActions hk, h]

/-- Actions leave an equal record if the fields that they write hold their texts already and no other field
differs from itself. -/
theorem applyActions_beq_iff :
    (d.applyActions r == r) = true ↔
      (∀ k, d.Writes k → r.get? k = some (.text (d.textAfter k (r.textOrEmpty k)))) ∧
        ∀ k, ¬d.Writes k → (r.get? k == r.get? k) = true := by
  rw [Record.beq_iff]
  constructor
  · intro h
    constructor
    · intro k hk
      have hsame := h k
      rw [get?_applyActions_of_writes hk] at hsame
      cases hr : r.get? k with
      | none => rw [hr] at hsame; cases hsame
      | some v => rw [FieldValue.eq_text_of_text_beq (v := v) (by rwa [hr] at hsame)]
    · intro k hk
      have hsame := h k
      rwa [get?_applyActions hk] at hsame
  · rintro ⟨hwritten, hother⟩ k
    by_cases hk : d.Writes k
    · rw [get?_applyActions_of_writes hk, ← hwritten k hk, hwritten k hk]
      exact beq_self_eq_true (d.textAfter k (r.textOrEmpty k))
    · rw [get?_applyActions hk]
      exact hother k hk

/-- Whether actions leave an equal record is a matter of the fields that they write, as long as those that differ
from themselves are the same. -/
theorem applyActions_beq_congr (h : ∀ k, d.Writes k → r.present? k = s.present? k)
    (hself : ∀ k, ¬d.Writes k → (r.get? k == r.get? k) = (s.get? k == s.get? k)) :
    (d.applyActions r == r) = (d.applyActions s == s) := by
  rw [Bool.eq_iff_iff, applyActions_beq_iff, applyActions_beq_iff]
  refine and_congr (forall₂_congr fun k hk => ?_) (forall₂_congr fun k hk => by rw [hself k hk])
  rw [Record.get?_eq_text_iff, Record.get?_eq_text_iff, h k hk, Record.textOrEmpty_congr (h k hk)]

/-! ## Conditions and actions -/

theorem apply_of_holds (h : d.holds r = true) : d.apply r = d.applyActions r := if_pos h

theorem apply_of_not_holds (h : d.holds r = false) : d.apply r = r := by
  unfold apply
  rw [h]
  rfl

theorem get?_apply_of_not_writes (h : ¬d.Writes k) (r : Record) : (d.apply r).get? k = r.get? k := by
  cases hh : d.holds r with
  | true => rw [apply_of_holds hh, get?_applyActions h]
  | false => rw [apply_of_not_holds hh]

end RuleDraft

end BudgetRules
