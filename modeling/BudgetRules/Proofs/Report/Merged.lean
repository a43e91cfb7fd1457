import BudgetRules.Proofs.Engine
import BudgetRules.Proofs.Report

/-!
# Reports on batches put together

No record has a part in what comes of another, so the report on two batches put together is made of theirs,
with the counters of a name added up; and what a report says can be told from the records one by one:

    (report rules d (b₁ ++ b₂)).Merges (report rules d b₁) (report rules d b₂)           (merges_report)
    (report rules d records).Accounts (outcome rules) records                          (accounts_report)
-/

namespace BudgetRules

/-! ## Counting names -/

/-- A name is counted as often as it stands in a list, and has no counter before it has been counted. -/
theorem Report.get?_foldl_count (names : List String) (m : SortedMap Nat) (name : String) :
    (names.foldl count m).get? name =
      if name ∈ names then some ((m.get? name).getD 0 + names.count name) else m.get? name := by
  induction names generalizing m with
  | nil => simp
  | cons first rest ih =>
    rw [List.foldl_cons, ih, count, SortedMap.get?_insert]
    by_cases hf : name = first
    · subst hf
      by_cases hr : name ∈ rest
      · simp [hr]; omega
      · simp [hr, List.count_eq_zero.2 hr]
    · simp [hf, Ne.symm hf]

/-- Names that are counted in two lists are counted in one after the other. -/
theorem Report.get?_foldl_count_append (first second : List String) (name : String) :
    ((first ++ second).foldl count .empty).get? name =
      Option.merge (fun m n => m + n) ((first.foldl count .empty).get? name)
        ((second.foldl count .empty).get? name) := by
  simp only [get?_foldl_count, SortedMap.get?_empty, Option.getD_none, Nat.zero_add, List.mem_append,
    List.count_append]
  by_cases hf : name ∈ first
  · by_cases hs : name ∈ second
    · simp [hf, hs]
    · simp [hf, hs, List.count_eq_zero.2 hs]
  · by_cases hs : name ∈ second
    · simp [hf, hs, List.count_eq_zero.2 hf]
    · simp [hf, hs]

/-- A report puts two others together, the second after the first. -/
structure Report.Merges (whole first second : Report) : Prop where
  total : whole.total = first.total + second.total
  modified : whole.modified = first.modified + second.modified
  /-- a name has a counter if it has one in either report; two of them are added up -/
  rulesApplied : ∀ name, whole.rulesApplied.get? name =
    Option.merge (fun m n => m + n) (first.rulesApplied.get? name) (second.rulesApplied.get? name)
  modifications : whole.modifications = first.modifications ++ second.modifications
  dryRun : whole.dryRun = first.dryRun ∧ whole.dryRun = second.dryRun
  fingerprint : whole.fingerprint = first.fingerprint ∧ whole.fingerprint = second.fingerprint

/-- A report accounts for a batch, of whose records the given outcomes came. -/
structure Report.Accounts (rep : Report) (outcome : Record → Outcome) (records : List Record) : Prop where
  total : rep.total = records.length
  modified : rep.modified = records.countP fun r => (outcome r).isModified
  /-- the records that came out different are listed in their order, each under the identity and the payee
  that it came with -/
  modifications : rep.modifications =
    (records.filter fun r => (outcome r).isModified && !(r.diff (outcome r).record).isEmpty).map fun r =>
      ⟨r.textOrUnknown "id", r.textOrUnknown "payee_name", (outcome r).applied, r.diff (outcome r).record⟩
  length_le : rep.modifications.length ≤ rep.modified

namespace Batch

open Cascade

/-! ## Two batches -/

theorem merges_report (rules : List Rule) (dryRun : Bool) (first second : List Record) :
    (report rules dryRun (first ++ second)).Merges (report rules dryRun first)
      (report rules dryRun second) := by
  have happend : appliedNames rules (first ++ second) =
      appliedNames rules first ++ appliedNames rules second := List.flatMap_append
  simp only [report_eq]
  constructor
  case total => exact List.length_append
  case modified => exact List.countP_append
  case rulesApplied =>
    intro name
    rw [happend, Report.get?_foldl_count_append]
  case modifications => exact List.filterMap_append
  case dryRun => exact ⟨rfl, rfl⟩
  case fingerprint => exact ⟨rfl, rfl⟩

/-! ## Records that are listed -/

theorem modification?_eq (rules : List Rule) (r : Record) :
    modification? rules r =
      if (outcome rules r).isModified && !(r.diff (outcome rules r).record).isEmpty then
        some ⟨r.label, r.textOrUnknown "payee_name", (outcome rules r).applied,
          r.diff (outcome rules r).record⟩
      else none := by
  unfold modification? Outcome.isModified
  cases (outcome rules r).applied.isEmpty <;> cases (r.diff (outcome rules r).record).isEmpty <;> rfl

theorem accounts_report (rules : List Rule) (dryRun : Bool) (records : List Record) :
    (report rules dryRun records).Accounts (outcome rules) records := by
  have hlist : records.filterMap (modification? rules) =
      (records.filter fun r =>
        (outcome rules r).isModified && !(r.diff (outcome rules r).record).isEmpty).map fun r =>
      ⟨r.label, r.textOrUnknown "payee_name", (outcome rules r).applied,
        r.diff (outcome rules r).record⟩ := by
    rw [← List.filterMap_eq_map, List.filterMap_filter, funext (modification?_eq rules)]
    rfl
  rw [report_eq]
  constructor
  case total => rfl
  case modified => rfl
  case modifications => exact hlist
  case length_le =>
    show (records.filterMap (modification? rules)).length ≤ _
    rw [hlist, List.length_map, ← List.countP_eq_length_filter]
    exact List.countP_mono_left fun r _ hr => (Bool.and_eq_true_iff.1 hr).1

end Batch

namespace Engine

variable {σ τ : Type} [RuleStore σ] [EventSink τ]

/-- The report on two batches put together merges the reports on each, and every report accounts for its
batch.  The rules that are loaded and the batch settle it: sink, clock and host have no part in it otherwise. -/
theorem process_append (e : Engine σ τ) (dryRun : Bool) (h : Host) :
    let rules := (e.loadRules.run h).1
    let report := fun batch => ((e.process batch dryRun).run h).1.1
    (∀ first second, (report (first ++ second)).Merges (report first) (report second)) ∧
    ∀ batch, (report batch).Accounts (fun r => (applyRules rules r e.now e.sink).1) batch ∧
      (report batch).dryRun = dryRun ∧ (report batch).fingerprint = Rule.fingerprint rules ∧
      report batch = Batch.report rules dryRun batch := by
  intro rules report
  have hreport : ∀ batch, report batch = Batch.report rules dryRun batch := by
    intro batch
    obtain ⟨s, h', hrun⟩ := e.run_process batch dryRun h
    show ((e.process batch dryRun).run h).1.1 = _
    rw [hrun]
  refine ⟨fun first second => ?_, fun batch => ⟨?_, ?_, ?_, hreport batch⟩⟩
  · rw [hreport, hreport, hreport]
    exact Batch.merges_report rules dryRun first second
  · rw [hreport]
    simp only [applyRules_eq]
    exact Batch.accounts_report rules dryRun batch
  · rw [hreport, Batch.dryRun_report]
  · rw [hreport, Batch.fingerprint_report]

end Engine

end BudgetRules
