import BudgetRules.Proofs.Cascade.Turns
import BudgetRules.Proofs.Engine

/-!
# Two records under the same rules

Records that are alike in what rules look at and write go through a cascade in step: the same rules apply to both,
and they stay alike.  A relation of which this is true is a `Lockstep`:

    Lockstep R → R r s → R (outcome rules r).record (outcome rules s).record                     (Lockstep.record)
    Lockstep R → R r s → (outcome rules r).applied = (outcome rules s).applied                   (Lockstep.applied)
    Lockstep R → R r s → entries now t rules r = entries now t rules s                           (Lockstep.entries)

Two relations are considered.  Records may agree on the fields that conditions can look at, whatever else is in
them; or they may differ in nothing but fields that one of them is without and the other holds a null in.
-/

namespace BudgetRules

namespace Cascade

/-- A relation of records that rules keep, and under which a rule applies to both or to neither. -/
structure Lockstep (R : Record → Record → Prop) : Prop where
  applies : ∀ (rule : Rule) (r s : Record), R r s → (rule.effect? r).isSome = (rule.effect? s).isSome
  keeps : ∀ (d : RuleDraft) (r s : Record), R r s → R (d.applyActions r) (d.applyActions s)

namespace Lockstep

variable {R : Record → Record → Prop} {r s : Record}

/-- One rule more for both records. -/
theorem next (h : Lockstep R) (hrs : R r s) (rule : Rule) :
    R ((rule.effect? r).getD r) ((rule.effect? s).getD s) := by
  rw [Rule.getD_effect?, Rule.getD_effect?, h.applies rule r s hrs]
  split
  · exact h.keeps rule.toRuleDraft r s hrs
  · exact hrs

theorem record (h : Lockstep R) (hrs : R r s) (rules : List Rule) :
    R (outcome rules r).record (outcome rules s).record := by
  induction rules generalizing r s with
  | nil => exact hrs
  | cons rule rest ih =>
    rw [outcome_cons, outcome_cons]
    exact ih (h.next hrs rule)

theorem applied (h : Lockstep R) (hrs : R r s) (rules : List Rule) :
    (outcome rules r).applied = (outcome rules s).applied := by
  induction rules generalizing r s with
  | nil => rfl
  | cons rule rest ih =>
    rw [outcome_cons, outcome_cons, Rule.applied_congr (h.applies rule r s hrs), ih (h.next hrs rule)]

theorem entries (h : Lockstep R) (hrs : R r s) (now : Timestamp) (transaction : String) (rules : List Rule) :
    Cascade.entries now transaction rules r = Cascade.entries now transaction rules s := by
  induction rules generalizing r s with
  | nil => rfl
  | cons rule rest ih =>
    have htold : told now transaction rule r = told now transaction rule s := by
      unfold told
      rw [h.applies rule r s hrs]
    rw [Cascade.entries, Cascade.entries, htold, ih (h.next hrs rule)]

/-- Records that agree on a field go on doing so. -/
theorem sameAt (h : Lockstep R) (k : String) : Lockstep fun r s => R r s ∧ r.get? k = s.get? k where
  applies := fun rule r s hrs => h.applies rule r s hrs.1
  keeps := fun d r s hrs => ⟨h.keeps d r s hrs.1, RuleDraft.get?_applyActions_congr_field hrs.2⟩

end Lockstep

end Cascade

/-! ## Records that look alike -/

/-- Do two records hold the same in every field that a condition can look at? -/
def Record.LookAlike (r s : Record) : Prop := ∀ f : ConditionField, r.get? f.name = s.get? f.name

/-- A condition can look at every field that an action can write. -/
theorem ActionField.exists_conditionField (f : ActionField) : ∃ c : ConditionField, c.name = f.name := by
  cases f with
  | payeeName => exact ⟨.payeeName, rfl⟩
  | categoryName => exact ⟨.categoryName, rfl⟩
  | memo => exact ⟨.memo, rfl⟩

theorem Record.LookAlike.get?_eq {r s : Record} (h : r.LookAlike s) {d : RuleDraft} {k : String}
    (hk : d.Reads k ∨ d.Writes k) : r.get? k = s.get? k := by
  rcases hk with ⟨c, -, rfl⟩ | ⟨a, -, rfl⟩
  · exact h c.field
  · obtain ⟨f, hf⟩ := a.field.exists_conditionField
    rw [← hf]
    exact h f

namespace Cascade

theorem lockstep_lookAlike :
    Lockstep fun r s => r.LookAlike s ∧ r.hasNaN = false ∧ s.hasNaN = false := by
  constructor
  case applies =>
    rintro rule r s ⟨h, hr, hs⟩
    refine Rule.isSome_effect?_congr (fun k hk => Record.present?_congr (h.get?_eq hk)) fun k _ => ?_
    rw [Record.get?_beq_self (Record.hasNaN_eq_false_iff.1 hr k),
      Record.get?_beq_self (Record.hasNaN_eq_false_iff.1 hs k)]
  case keeps =>
    rintro d r s ⟨h, hr, hs⟩
    exact ⟨fun f => RuleDraft.get?_applyActions_congr_field (h f),
      (d.rewritten_applyActions r).hasNaN hr, (d.rewritten_applyActions s).hasNaN hs⟩

variable {σ τ : Type} [EventSink σ] [EventSink τ]

/-- What rules do hangs on nothing but the fields that conditions can look at, and it shows in no other fields than
those that actions can write. -/
theorem applyRules_lookAlike {r s : Record} (h : r.LookAlike s) (hr : r.hasNaN = false) (hs : s.hasNaN = false)
    (rules : List Rule) (now later : Timestamp) (x : σ) (y : τ) :
    let one := (applyRules rules r now x).1
    let other := (applyRules rules s later y).1
    one.applied = other.applied ∧
      (∀ f : ActionField, one.record.get? f.name = other.record.get? f.name) ∧
      ∀ k, (∀ f : ActionField, f.name ≠ k) →
        one.record.get? k = r.get? k ∧ other.record.get? k = s.get? k := by
  intro one other
  have hone : one = outcome rules r := congrArg Prod.fst (applyRules_eq rules r now x)
  have hother : other = outcome rules s := congrArg Prod.fst (applyRules_eq rules s later y)
  rw [hone, hother]
  refine ⟨lockstep_lookAlike.applied ⟨h, hr, hs⟩ rules, fun f => ?_, fun k hk => ⟨?_, ?_⟩⟩
  · obtain ⟨hlook, -⟩ := lockstep_lookAlike.record ⟨h, hr, hs⟩ rules
    obtain ⟨c, hc⟩ := f.exists_conditionField
    rw [← hc]
    exact hlook c
  · exact (rewritten_outcome rules r).get?_eq hk
  · exact (rewritten_outcome rules s).get?_eq hk

/-- A rule that marks what has been paid, unless nobody knows for what. -/
def paid : Rule :=
  ⟨⟨"Paid", "", [⟨.outflow, .greaterThan, "0"⟩, ⟨.categoryName, .contains, "t"⟩], [⟨.memo, .append, "paid"⟩], true,
    0, .and⟩, "p"⟩

/-- Of two rides that look alike one has a list in it and a flag, and another name. -/
theorem applyRules_lookAlike_rides :
    let rules := [.rides, paid]
    let ride := Record.ofList [("id", .text "a"), ("outflow", .number (.ofInt 12)), ("payee_name", .text "Uber")]
    let split := Record.ofList [("approved", .bool true), ("outflow", .number (.ofInt 12)),
      ("payee_name", .text "Uber"), ("subtransactions", .other (.arr [.num (.int 5), .num (.int 7)]))]
    ride.LookAlike split ∧ ride.hasNaN = false ∧ split.hasNaN = false ∧
      let one := (applyRules rules ride ⟨0, 0⟩ EventLog.all).1
      let other := (applyRules rules split ⟨1, 0⟩ EventLog.all).1
      one.applied = other.applied ∧
        (∀ f : ActionField, one.record.get? f.name = other.record.get? f.name) ∧
        (∀ k, (∀ f : ActionField, f.name ≠ k) →
          one.record.get? k = ride.get? k ∧ other.record.get? k = split.get? k) ∧
        other.applied = ["Rides", "Paid"] := by
  intro rules ride split
  have h : ride.LookAlike split := by
    intro f
    cases f <;>
      simp [ride, split, Record.ofList, SortedMap.ofList, Record.get?, ConditionField.name, Vocabulary.word]
  have hr : ride.hasNaN = false := by decide +kernel
  have hs : split.hasNaN = false := by decide +kernel
  obtain ⟨happlied, hfields, hothers⟩ := applyRules_lookAlike h hr hs rules ⟨0, 0⟩ ⟨1, 0⟩ EventLog.all EventLog.all
  exact ⟨h, hr, hs, happlied, hfields, hothers, by decide +kernel⟩

end Cascade

/-! ## Records that differ in nulls -/

/-- Do two records differ in nothing but fields that one of them is without and the other holds a null in? -/
def Record.SameButNull (r s : Record) : Prop :=
  ∀ k, r.get? k = s.get? k ∨ (r.get? k = none ∧ s.get? k = some .null) ∨
    (r.get? k = some .null ∧ s.get? k = none)

theorem Record.SameButNull.present?_eq {r s : Record} (h : r.SameButNull s) (k : String) :
    r.present? k = s.present? k := by
  unfold present?
  rcases h k with hk | ⟨hr, hs⟩ | ⟨hr, hs⟩
  · rw [hk]
  · rw [hr, hs]; rfl
  · rw [hr, hs]; rfl

namespace Cascade

theorem lockstep_sameButNull : Lockstep Record.SameButNull := by
  constructor
  case applies =>
    intro rule r s h
    refine Rule.isSome_effect?_congr (fun k _ => h.present?_eq k) fun k _ => ?_
    rcases h k with hk | ⟨hr, hs⟩ | ⟨hr, hs⟩
    · rw [hk]
    · rw [hr, hs]; rfl
    · rw [hr, hs]; rfl
  case keeps =>
    intro d r s h k
    by_cases hk : d.Writes k
    · refine .inl ?_
      rw [RuleDraft.get?_applyActions_of_writes hk, RuleDraft.get?_applyActions_of_writes hk,
        Record.textOrEmpty_congr (h.present?_eq k)]
    · rw [RuleDraft.get?_applyActions hk, RuleDraft.get?_applyActions hk]
      exact h k

/-- A field that a rule has written is the same in both records from then on. -/
theorem get?_eq_of_turn {rules : List Rule} {r s : Record} (h : r.SameButNull s) {t : Turn}
    (ht : t ∈ turns (rules.filter (·.enabled)) r) (hc : t.changes = true) {k : String} (hk : t.rule.Writes k) :
    (outcome rules r).record.get? k = (outcome rules s).record.get? k := by
  induction rules generalizing r s with
  | nil => cases ht
  | cons rule rest ih =>
    have hnext := lockstep_sameButNull.next h rule
    rw [outcome_cons, outcome_cons]
    cases he : rule.enabled with
    | false =>
      have hf : (rule :: rest).filter (·.enabled) = rest.filter (·.enabled) :=
        List.filter_cons_of_neg (by simp [he])
      rw [hf] at ht
      rw [Rule.effect?_of_disabled he, Rule.effect?_of_disabled he]
      exact ih h ht
    | true =>
      have hf : (rule :: rest).filter (·.enabled) = rule :: rest.filter (·.enabled) :=
        List.filter_cons_of_pos he
      rw [hf, turns] at ht
      rcases List.mem_cons.1 ht with rfl | ht
      · -- the rule's own turn: both records hold the text that it wrote, and agree on the field from then on
        have hr : (rule.effect? r).isSome = true := (changes_turn he r).symm.trans hc
        have hs : (rule.effect? s).isSome = true := (lockstep_sameButNull.applies rule r s h).symm.trans hr
        have hwritten : ((rule.effect? r).getD r).get? k = ((rule.effect? s).getD s).get? k := by
          rw [Rule.getD_effect?, Rule.getD_effect?, if_pos hr, if_pos hs,
            RuleDraft.get?_applyActions_of_writes hk, RuleDraft.get?_applyActions_of_writes hk,
            Record.textOrEmpty_congr (h.present?_eq k)]
        exact ((lockstep_sameButNull.sameAt k).record ⟨hnext, hwritten⟩ rest).2
      · rw [Rule.apply_eq he] at ht
        exact ih hnext ht

variable {σ : Type} [EventSink σ]

/-- A null is as good as nothing: the same rules apply and the same entries are put into the sink.  The records that
come out differ in nulls again, in no field that the two agreed on and in none that a rule wrote that applied. -/
theorem applyRules_sameButNull {r s : Record} (h : r.SameButNull s) (rules : List Rule) (now : Timestamp) (x : σ) :
    let one := applyRules rules r now x
    let other := applyRules rules s now x
    one.1.applied = other.1.applied ∧
      emitted rules r now x = emitted rules s now x ∧ one.2 = other.2 ∧
      one.1.record.SameButNull other.1.record ∧
      (∀ k, r.get? k = s.get? k → one.1.record.get? k = other.1.record.get? k) ∧
      ∀ t ∈ turns (rules.filter (·.enabled)) r, t.changes = true →
        ∀ k, t.rule.Writes k → one.1.record.get? k = other.1.record.get? k := by
  intro one other
  have hlabel : r.label = s.label := by
    rw [Record.label_eq, Record.label_eq, Record.id?, Record.id?, h.present?_eq]
  have hentries : entries now r.label rules r = entries now s.label rules s := by
    rw [hlabel]
    exact lockstep_sameButNull.entries h now s.label rules
  have hone : one = _ := applyRules_eq rules r now x
  have hother : other = _ := applyRules_eq rules s now x
  rw [emitted_eq, emitted_eq, hone, hother, hentries]
  refine ⟨lockstep_sameButNull.applied h rules, rfl, rfl, lockstep_sameButNull.record h rules, fun k hk => ?_,
    fun t ht hc k hk => get?_eq_of_turn h ht hc hk⟩
  exact ((lockstep_sameButNull.sameAt k).record ⟨h, hk⟩ rules).2

/-- A ride with a null for a memo, and one without a memo but with a null for an identity. -/
theorem applyRules_sameButNull_rides :
    let rules := [.rides, paid]
    let ride := Record.ofList [("memo", .null), ("outflow", .number (.ofInt 12)), ("payee_name", .text "Uber")]
    let bare := Record.ofList [("id", .null), ("outflow", .number (.ofInt 12)), ("payee_name", .text "Uber")]
    ride.SameButNull bare ∧
      let one := applyRules rules ride ⟨0, 0⟩ EventLog.all
      let other := applyRules rules bare ⟨0, 0⟩ EventLog.all
      one.1.applied = other.1.applied ∧
        emitted rules ride ⟨0, 0⟩ EventLog.all = emitted rules bare ⟨0, 0⟩ EventLog.all ∧ one.2 = other.2 ∧
        one.1.record.SameButNull other.1.record ∧
        (∀ k, ride.get? k = bare.get? k → one.1.record.get? k = other.1.record.get? k) ∧
        (∀ t ∈ turns (rules.filter (·.enabled)) ride, t.changes = true →
          ∀ k, t.rule.Writes k → one.1.record.get? k = other.1.record.get? k) ∧
        other.1.applied = ["Rides", "Paid"] := by
  intro rules ride bare
  have h : ride.SameButNull bare := by
    intro k
    by_cases hmemo : k = "memo"
    · subst hmemo
      exact .inr (.inr ⟨rfl, rfl⟩)
    · by_cases hid : k = "id"
      · subst hid
        exact .inr (.inl ⟨rfl, rfl⟩)
      · refine .inl ?_
        simp [ride, bare, Record.ofList, SortedMap.ofList, Record.get?, hmemo, hid]
  obtain ⟨happlied, hemitted, hsink, hrecord, hagree, hwritten⟩ :=
    applyRules_sameButNull h rules ⟨0, 0⟩ EventLog.all
  exact ⟨h, happlied, hemitted, hsink, hrecord, hagree, hwritten, by decide +kernel⟩

end Cascade

end BudgetRules
