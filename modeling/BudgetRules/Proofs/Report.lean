import BudgetRules.Proofs.Batch
import BudgetRules.Proofs.Ledger

/-!
# What a batch reports

A report lists at most one modification for a record.  Its changes turn the record into what the rules make
of it, and a record that nothing is listed for stays as it is under the rules:

    report rules d records = ⟨records.length, …, records.filterMap (modification? rules), d, …⟩  (report_eq)
    r.applyChanges (allChanges (modification? rules r).toList) = (outcome rules r).record
                                                                        (applyChanges_modification?)
-/

namespace BudgetRules.Batch

open Cascade Modification

/-- What is listed for a record: nothing if no rule applied or the record came out the same. -/
def modification? (rules : List Rule) (r : Record) : Option Modification :=
  if (outcome rules r).applied.isEmpty || (r.diff (outcome rules r).record).isEmpty then none
  else
    some ⟨r.label, r.textOrUnknown "payee_name", (outcome rules r).applied,
      r.diff (outcome rules r).record⟩

variable {rules : List Rule} {r : Record} {m : Modification}

theorem modification?_eq_some (h : modification? rules r = some m) :
    r.diff (outcome rules r).record ≠ [] ∧
      m = ⟨r.label, r.textOrUnknown "payee_name", (outcome rules r).applied,
        r.diff (outcome rules r).record⟩ := by
  unfold modification? at h
  split at h
  · cases h
  · next hc =>
    cases h
    rw [Bool.or_eq_true, not_or, List.isEmpty_iff, List.isEmpty_iff] at hc
    exact ⟨hc.2, rfl⟩

theorem transaction_of_modification? (h : modification? rules r = some m) : m.transaction = r.label := by
  rw [(modification?_eq_some h).2]

theorem changes_of_modification? (h : modification? rules r = some m) :
    m.changes = r.diff (outcome rules r).record := by
  rw [(modification?_eq_some h).2]

/-! ## One record after the other -/

/-- The names of the rules that applied to some records, one record after the other. -/
def appliedNames (rules : List Rule) (records : List Record) : List String :=
  records.flatMap fun r => (outcome rules r).applied

/-- What one more record adds to a report: nothing else of it changes. -/
theorem addOutcome_eq (rules : List Rule) (rep : Report) (r : Record) :
    addOutcome rules rep r =
      ⟨rep.total + 1, rep.modified + if (outcome rules r).isModified then 1 else 0,
        (outcome rules r).applied.foldl Report.count rep.rulesApplied,
        rep.modifications ++ (modification? rules r).toList, rep.dryRun, rep.fingerprint⟩ := by
  unfold addOutcome Report.add modification? Outcome.isModified
  cases ha : (outcome rules r).applied with
  | nil => simp
  | cons name rest => cases hd : r.diff (outcome rules r).record <;> simp

theorem foldl_addOutcome (rules : List Rule) (records : List Record) (rep : Report) :
    records.foldl (addOutcome rules) rep =
      ⟨rep.total + records.length,
        rep.modified + records.countP fun r => (outcome rules r).isModified,
        (appliedNames rules records).foldl Report.count rep.rulesApplied,
        rep.modifications ++ records.filterMap (modification? rules), rep.dryRun, rep.fingerprint⟩ := by
  induction records generalizing rep with
  | nil => simp [appliedNames]
  | cons r rest ih =>
    have hlist : (r :: rest).filterMap (modification? rules) =
        (modification? rules r).toList ++ rest.filterMap (modification? rules) := by
      rw [List.filterMap_cons]
      cases modification? rules r <;> rfl
    rw [List.foldl_cons, addOutcome_eq, ih, hlist, List.length_cons, List.countP_cons]
    simp only [appliedNames, List.flatMap_cons, List.foldl_append, List.append_assoc, Report.mk.injEq,
      and_true]
    omega

theorem report_eq (rules : List Rule) (dryRun : Bool) (records : List Record) :
    report rules dryRun records =
      ⟨records.length, records.countP fun r => (outcome rules r).isModified,
        (appliedNames rules records).foldl Report.count .empty,
        records.filterMap (modification? rules), dryRun, Rule.fingerprint rules⟩ := by
  unfold report
  rw [foldl_addOutcome]
  simp only [Report.empty, Nat.zero_add, List.nil_append]

theorem modifications_report (rules : List Rule) (dryRun : Bool) (records : List Record) :
    (report rules dryRun records).modifications = records.filterMap (modification? rules) := by
  rw [report_eq]

theorem dryRun_report (rules : List Rule) (dryRun : Bool) (records : List Record) :
    (report rules dryRun records).dryRun = dryRun := by
  rw [report_eq]

theorem fingerprint_report (rules : List Rule) (dryRun : Bool) (records : List Record) :
    (report rules dryRun records).fingerprint = Rule.fingerprint rules := by
  rw [report_eq]

theorem changeCount_eq (rep : Report) : rep.changeCount = (allChanges rep.modifications).length := rfl

/-! ## The changes of a modification -/

/-- What is listed for a record makes it what the rules make of it. -/
theorem applyChanges_modification? (rules : List Rule) (r : Record) :
    r.applyChanges (allChanges (modification? rules r).toList) = (outcome rules r).record := by
  have hdiff : r.applyChanges (r.diff (outcome rules r).record) = (outcome rules r).record :=
    Record.applyChanges_diff (rewritten_outcome rules r).agree
  cases hm : modification? rules r with
  | some m =>
    simp only [Option.toList_some, allChanges, List.flatMap_cons, List.flatMap_nil, List.append_nil]
    rw [changes_of_modification? hm, hdiff]
  | none =>
    unfold modification? at hm
    split at hm
    · next hnone =>
      rcases Bool.or_eq_true _ _ ▸ hnone with ha | hd
      · rw [record_of_applied_eq_nil (List.isEmpty_iff.1 ha)]; rfl
      · rw [List.isEmpty_iff.1 hd] at hdiff; exact hdiff
    · cases hm

/-- Only a record that has an identity can show a change of it, namely from a NaN to itself. -/
theorem id?_of_mem_diff (h : "id" ∈ (r.diff (outcome rules r).record).map (·.field)) :
    r.id? = some r.label := by
  obtain ⟨c, hc, hf⟩ := List.mem_map.1 h
  rw [Record.mem_diff, hf, (rewritten_outcome rules r).get?_id] at hc
  rcases hc with ⟨v, hv, -, -, hne⟩ | ⟨v, hv, hnone, -, -⟩
  · have hself : (v == v) = false := hne v hv
    have hnull : v.isNull = false := by
      cases v with
      | null => cases hself
      | bool b => rfl
      | number x => rfl
      | text t => rfl
      | other j => rfl
    have hid : r.id? = some v.toText := by
      unfold Record.id? Record.present?
      rw [hv, Option.filter_some, hnull]
      rfl
    exact Record.id?_eq_label (by rw [hid]; exact Option.some_ne_none _)
  · rw [hv] at hnone
    cases hnone

/-- A modification leaves the identity that it is written under. -/
theorem keepsId_of_modification? (h : modification? rules r = some m) : m.KeepsId := by
  intro s hs
  rw [transaction_of_modification? h] at hs ⊢
  rw [changes_of_modification? h]
  have hid : ∀ c ∈ r.diff (outcome rules r).record, c.field = "id" → c.new = r.get? "id" := by
    intro c hc hf
    rw [Record.new_of_mem_diff hc, hf, (rewritten_outcome rules r).get?_id]
  have hget := s.get?_applyChanges hid
  split at hget
  · next hmem => rw [Record.id?_congr hget, id?_of_mem_diff hmem]
  · rw [Record.id?_congr hget, hs]

theorem keepsId_of_mem_report {dryRun : Bool} {records : List Record}
    (h : m ∈ (report rules dryRun records).modifications) : m.KeepsId := by
  rw [modifications_report, List.mem_filterMap] at h
  obtain ⟨r, -, hr⟩ := h
  exact keepsId_of_modification? hr

end BudgetRules.Batch
