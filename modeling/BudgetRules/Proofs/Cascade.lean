import BudgetRules.Cascade
import BudgetRules.Proofs.Record

/-!
# What a cascade does

Rules only ever write texts to the fields that actions may write (`Record.Rewritten`), so the identity of a
record stays.  A cascade is told apart into its outcome, which no sink has a part in, and the entries that
it offers to its sink one after the other:

    r.Rewritten (Cascade.outcome rules r).record                                   (rewritten_outcome)
    applyRules rules r now s = (outcome rules r, (entries …).foldl EventSink.offer s)  (applyRules_eq)
-/

namespace BudgetRules

/-! ## Written fields -/

theorem ActionField.name_ne_id (f : ActionField) : f.name ≠ "id" := by
  cases f <;> decide

/-- A value that compares equal to a text is that text. -/
theorem FieldValue.eq_text_of_beq {v : FieldValue} {t : String} (h : (v == .text t) = true) :
    v = .text t := by
  cases v with
  | text s => exact congrArg _ (eq_of_beq h)
  | null => cases h
  | bool b => cases h
  | number x => cases h
  | other j => cases h

namespace Record

/-- The second record is the first with texts written to fields that actions may write. -/
def Rewritten (before after : Record) : Prop :=
  ∀ k, after.get? k = before.get? k ∨
    ∃ (f : ActionField) (t : String), k = f.name ∧ after.get? k = some (.text t)

theorem Rewritten.refl (r : Record) : r.Rewritten r := fun _ => .inl rfl

theorem Rewritten.trans {r s t : Record} (hrs : r.Rewritten s) (hst : s.Rewritten t) : r.Rewritten t := by
  intro k
  rcases hst k with h | h
  · rw [h]; exact hrs k
  · exact .inr h

theorem Rewritten.set (r : Record) (f : ActionField) (t : String) : r.Rewritten (r.set f.name (.text t)) := by
  intro k
  rw [get?_set]
  by_cases hk : k = f.name
  · exact .inr ⟨f, t, hk, by rw [if_pos hk]⟩
  · exact .inl (by rw [if_neg hk])

/-- A field that no action can write is as it was. -/
theorem Rewritten.get?_eq {r s : Record} (h : r.Rewritten s) {k : String} (hk : ∀ f : ActionField, f.name ≠ k) :
    s.get? k = r.get? k := by
  rcases h k with h | ⟨f, t, hf, -⟩
  · exact h
  · exact absurd hf.symm (hk f)

theorem Rewritten.get?_id {r s : Record} (h : r.Rewritten s) : s.get? "id" = r.get? "id" :=
  h.get?_eq ActionField.name_ne_id

theorem Rewritten.agree {r s : Record} (h : r.Rewritten s) : r.Agree s := by
  intro k old new hr hs heq
  rcases h k with he | ⟨f, t, -, ht⟩
  · rw [he, hr] at hs; exact Option.some.inj hs
  · rw [ht] at hs
    cases hs
    exact FieldValue.eq_text_of_beq heq

end Record

theorem Action.rewritten_apply (a : Action) (r : Record) : r.Rewritten (a.apply r) := .set r _ _

theorem RuleDraft.rewritten_applyActions (d : RuleDraft) (r : Record) : r.Rewritten (d.applyActions r) := by
  unfold RuleDraft.applyActions
  induction d.actions generalizing r with
  | nil => exact .refl r
  | cons a rest ih => exact (a.rewritten_apply r).trans (ih _)

/-! ## Outcome and entries -/

/-- The record after a rule, if the rule applies: it is enabled, its conditions match and its actions change
something. -/
def Rule.effect? (rule : Rule) (r : Record) : Option Record :=
  if rule.enabled && rule.holds r && !(rule.applyActions r == r) then some (rule.applyActions r) else none

theorem Rule.eq_of_effect? {rule : Rule} {r next : Record} (h : rule.effect? r = some next) :
    next = rule.applyActions r := by
  unfold Rule.effect? at h
  split at h
  · cases h; rfl
  · cases h

/-- What a rule leaves of a record. -/
theorem Rule.getD_effect? (rule : Rule) (r : Record) :
    (rule.effect? r).getD r = if (rule.effect? r).isSome then rule.applyActions r else r := by
  cases he : rule.effect? r with
  | none => rfl
  | some next => exact eq_of_effect? he

/-- The name of a rule if it applies. -/
def Rule.applied (rule : Rule) (r : Record) : List String :=
  if (rule.effect? r).isSome then [rule.name] else []

theorem Rule.applied_sublist (rule : Rule) (r : Record) : (rule.applied r).Sublist [rule.name] := by
  unfold applied
  cases (rule.effect? r).isSome <;> simp

theorem Rule.reverse_applied (rule : Rule) (r : Record) : (rule.applied r).reverse = rule.applied r := by
  unfold applied
  cases (rule.effect? r).isSome <;> rfl

theorem Rule.applied_congr {rule : Rule} {r s : Record}
    (h : (rule.effect? r).isSome = (rule.effect? s).isSome) : rule.applied r = rule.applied s := by
  unfold applied
  rw [h]

theorem Rule.rewritten_effect? {rule : Rule} {r next : Record} (h : rule.effect? r = some next) :
    r.Rewritten next := by
  rw [eq_of_effect? h]
  exact rule.rewritten_applyActions r

namespace Cascade

/-- The outcome of some rules, whatever the sink. -/
def outcome : List Rule → Record → Outcome
  | [], r => ⟨r, []⟩
  | rule :: rest, r =>
    match rule.effect? r with
    | some next => ⟨(outcome rest next).record, rule.name :: (outcome rest next).applied⟩
    | none => outcome rest r

/-- The entries for one rule and what the record is when its turn comes. -/
def told (now : Timestamp) (transaction : String) (rule : Rule) (r : Record) : List Entry :=
  if !rule.enabled then [skipped now transaction rule]
  else if (rule.effect? r).isSome then [changed now transaction rule]
  else []

/-- The entries that some rules offer to a sink, whether it wants them or not. -/
def entries (now : Timestamp) (transaction : String) : List Rule → Record → List Entry
  | [], _ => []
  | rule :: rest, r =>
    told now transaction rule r ++ entries now transaction rest ((rule.effect? r).getD r)

variable {σ : Type} [EventSink σ]

/-- One rule: either it applies, or the record stays; its entries are offered first. -/
theorem run_cons (now : Timestamp) (t : String) (rule : Rule) (rest : List Rule) (r : Record) (s : σ) :
    run now t (rule :: rest) r s =
      match rule.effect? r with
      | some next =>
        let (o, s) := run now t rest next ((told now t rule r).foldl EventSink.offer s)
        (⟨o.record, rule.name :: o.applied⟩, s)
      | none => run now t rest r ((told now t rule r).foldl EventSink.offer s) := by
  rw [run]
  unfold told Rule.effect?
  cases rule.enabled with
  | false => simp
  | true =>
    cases rule.holds r with
    | false => simp
    | true => cases hn : rule.applyActions r == r <;> simp [hn]

/-- The outcome does not hang on the sink, which is offered the entries in their order. -/
theorem run_eq (now : Timestamp) (t : String) (rules : List Rule) (r : Record) (s : σ) :
    run now t rules r s = (outcome rules r, (entries now t rules r).foldl EventSink.offer s) := by
  induction rules generalizing r s with
  | nil => rfl
  | cons rule rest ih =>
    rw [run_cons]
    unfold outcome entries
    rw [List.foldl_append]
    cases rule.effect? r with
    | some next => simp only [ih, Option.getD_some]
    | none => simp only [ih, Option.getD_none]

theorem rewritten_outcome (rules : List Rule) (r : Record) : r.Rewritten (outcome rules r).record := by
  induction rules generalizing r with
  | nil => exact .refl r
  | cons rule rest ih =>
    unfold outcome
    cases he : rule.effect? r with
    | some next => exact (Rule.rewritten_effect? he).trans (ih next)
    | none => exact ih r

/-- A record that no rule applied to is as it was. -/
theorem record_of_applied_eq_nil {rules : List Rule} {r : Record} (h : (outcome rules r).applied = []) :
    (outcome rules r).record = r := by
  induction rules generalizing r with
  | nil => rfl
  | cons rule rest ih =>
    unfold outcome at h ⊢
    cases he : rule.effect? r with
    | some next => simp [he] at h
    | none => simp only [he] at h ⊢; exact ih h

end Cascade

theorem applyRules_eq {σ : Type} [EventSink σ] (rules : List Rule) (r : Record) (now : Timestamp) (s : σ) :
    applyRules rules r now s =
      (Cascade.outcome rules r, (Cascade.entries now r.label rules r).foldl EventSink.offer s) :=
  Cascade.run_eq now r.label rules r s

theorem record_applyRules {σ : Type} [EventSink σ] (rules : List Rule) (r : Record) (now : Timestamp)
    (s : σ) :
    (applyRules rules r now s).1.record = (Cascade.outcome rules r).record := by
  rw [applyRules_eq]

end BudgetRules
