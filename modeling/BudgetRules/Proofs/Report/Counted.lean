import BudgetRules.Proofs.App
import BudgetRules.Proofs.Cascade.Visible
import BudgetRules.Proofs.Engine.Priority
import BudgetRules.Proofs.Report.Merged

/-!
# How often rules of a name applied

The counters of a report go by the names of rules, and rules may share a name.  A counter tells how often rules of its
name applied, one transaction after the other and within each of them:

    rep.rulesApplied.get? name = some n → n = (records.flatMap applied).count name                   (applications)

That is the number of transactions to which a rule of the name applied exactly if none of them had two of them apply,
so it is for every name that no two enabled rules share.
-/

namespace BudgetRules

/-! ## Names in several lists -/

/-- Every list that has a name is counted at least once. -/
theorem countP_mem_le_count_flatMap (f : Record → List String) (name : String) (records : List Record) :
    (records.countP fun r => name ∈ f r) ≤ (records.flatMap f).count name := by
  induction records with
  | nil => exact Nat.zero_le _
  | cons r rest ih =>
    rw [List.countP_cons, List.flatMap_cons, List.count_append]
    by_cases hr : name ∈ f r
    · have hpos := List.count_pos_iff.2 hr
      simp only [hr, decide_true, if_true]
      omega
    · simp only [hr, decide_false, Bool.false_eq_true, if_false]
      omega

/-- No list is counted more than once exactly if none of them has the name twice. -/
theorem count_flatMap_eq_countP_iff (f : Record → List String) (name : String) (records : List Record) :
    (records.flatMap f).count name = (records.countP fun r => name ∈ f r) ↔
      ∀ r ∈ records, (f r).count name ≤ 1 := by
  induction records with
  | nil => simp
  | cons r rest ih =>
    have hrest := countP_mem_le_count_flatMap f name rest
    rw [List.forall_mem_cons, List.countP_cons, List.flatMap_cons, List.count_append]
    refine Iff.trans ?_ (and_congr_right fun _ => ih)
    by_cases hr : name ∈ f r
    · have hpos := List.count_pos_iff.2 hr
      simp only [hr, decide_true, if_true]
      omega
    · have hzero := List.count_eq_zero.2 hr
      simp only [hr, decide_false, Bool.false_eq_true, if_false]
      omega

/-- A name applies to a record at most once for every enabled rule that has it. -/
theorem Cascade.count_applied_le (rules : List Rule) (r : Record) (name : String) :
    (outcome rules r).applied.count name ≤ rules.countP fun rule => rule.enabled && rule.name = name := by
  induction rules generalizing r with
  | nil => exact Nat.le_refl 0
  | cons rule rest ih =>
    rw [List.countP_cons]
    unfold outcome
    cases he : rule.effect? r with
    | none => exact Nat.le_add_right_of_le (ih r)
    | some next =>
      have hen := Rule.enabled_of_effect? he
      simp only [List.count_cons, hen, Bool.true_and, beq_iff_eq, decide_eq_true_eq]
      exact Nat.add_le_add_right (ih next) _

/-! ## Counters -/

/-- What the counter of a name in a report tells about a batch, given the names of the rules that applied to a
record. -/
structure Report.Counts (rep : Report) (name : String) (applied : Record → List String) (records : List Record) :
    Prop where
  /-- a name has a counter exactly if it applied at least once -/
  counter : rep.rulesApplied.contains name = true ↔ ∃ r ∈ records, name ∈ applied r
  /-- every application counts -/
  applications : ∀ n, rep.rulesApplied.get? name = some n → n = (records.flatMap applied).count name
  /-- no more is counted than the transactions exactly if the name never applied twice to one of them -/
  transactions : ∀ n, rep.rulesApplied.get? name = some n →
    (n = (records.countP fun r => name ∈ applied r) ↔ ∀ r ∈ records, (applied r).count name ≤ 1)

namespace Batch

open Cascade

theorem get?_rulesApplied (rules : List Rule) (dryRun : Bool) (records : List Record) (name : String) :
    (report rules dryRun records).rulesApplied.get? name =
      if name ∈ appliedNames rules records then some ((appliedNames rules records).count name) else none := by
  rw [report_eq, Report.get?_foldl_count, SortedMap.get?_empty, Option.getD_none, Nat.zero_add]

theorem counts_report (rules : List Rule) (dryRun : Bool) (records : List Record) (name : String) :
    (report rules dryRun records).Counts name (fun r => (outcome rules r).applied) records := by
  have hget := get?_rulesApplied rules dryRun records name
  have happlications : ∀ n, (report rules dryRun records).rulesApplied.get? name = some n →
      n = (appliedNames rules records).count name := by
    intro n hn
    rw [hget] at hn
    split at hn
    · cases hn; rfl
    · cases hn
  constructor
  case counter =>
    unfold SortedMap.contains
    rw [hget, Option.isSome_ite]
    exact List.mem_flatMap
  case applications => exact happlications
  case transactions =>
    intro n hn
    rw [happlications n hn]
    exact count_flatMap_eq_countP_iff _ name records

end Batch

namespace App

variable {σ τ : Type} [RuleStore σ] [EventSink τ]

/-- The counter of a name in the report on a batch, evaluated in either way, tells every application of a rule of that
name.  If no two enabled rules share the name, it tells the transactions to which the rule applied. -/
theorem evaluate_counts (e : Engine σ τ) (records : List Record) (dryRun apart : Bool) (h : Host) (name : String) :
    let rules := (e.loadRules.run h).1
    let rep := ((evaluate e records dryRun apart).run h).1.1
    let applied := fun r => (applyRules rules r e.now e.sink).1.applied
    rep.Counts name applied records ∧
      ((rules.countP fun rule => rule.enabled && rule.name = name) ≤ 1 →
        ∀ n, rep.rulesApplied.get? name = some n →
          n = (records.countP fun r => name ∈ applied r) ∧ n ≤ rep.total) := by
  intro rules rep applied
  have happlied : applied = fun r => (Cascade.outcome rules r).applied := by
    funext r
    exact congrArg (fun o => o.1.applied) (applyRules_eq rules r e.now e.sink)
  have hrep : rep = Batch.report rules dryRun records := by
    obtain ⟨s, h', hrun⟩ := run_evaluate e records dryRun apart h
    exact congrArg (fun o => o.1.1) hrun
  have hcounts : rep.Counts name applied records := by
    rw [hrep, happlied]
    exact Batch.counts_report rules dryRun records name
  refine ⟨hcounts, fun hone n hn => ?_⟩
  have honce : ∀ r ∈ records, (applied r).count name ≤ 1 := by
    intro r _
    rw [happlied]
    exact Nat.le_trans (Cascade.count_applied_le rules r name) hone
  have htransactions := (hcounts.transactions n hn).2 honce
  refine ⟨htransactions, ?_⟩
  rw [htransactions, hrep, Batch.report_eq]
  exact List.countP_le_length

/-- A rule that marks rides, under the name of the one that files them. -/
def marking : Rule := { Rule.rides with id := "m", actions := [⟨.memo, .append, "#ride"⟩] }

/-- Three records under two rules of different names, both of which apply to two of the records. -/
theorem evaluate_counts_rides :
    let e : Engine MemoryStore EventLog := ⟨⟨[.rides, { marking with name := "Marks" }]⟩, .all, ⟨0, 0⟩⟩
    let h : Host := ⟨.empty, .seeded 0, [], []⟩
    let ride := Record.ofList [("id", .text "a"), ("payee_name", .text "Uber")]
    let records := [ride, Record.ofList [("id", .text "b")], ride]
    let rules := (e.loadRules.run h).1
    let rep := ((evaluate e records true false).run h).1.1
    let applied := fun r => (applyRules rules r e.now e.sink).1.applied
    (rules.countP fun rule => rule.enabled && rule.name = "Rides") ≤ 1 ∧ rep.rulesApplied.get? "Rides" = some 2 ∧
      rep.Counts "Rides" applied records ∧
        2 = (records.countP fun r => "Rides" ∈ applied r) ∧ 2 ≤ rep.total := by
  intro e h ride records rules rep applied
  have hrules : rules = [.rides, { marking with name := "Marks" }] :=
    (e.run_loadRules h).trans (eq_byPriority_iff.2 ⟨by decide, fun p => rfl⟩).symm
  have hone : (rules.countP fun rule => rule.enabled && rule.name = "Rides") ≤ 1 := by
    rw [hrules]
    decide
  have hget : rep.rulesApplied.get? "Rides" = some 2 := by
    obtain ⟨s, h', hrun⟩ := run_evaluate e records true false h
    have hrep : rep = Batch.report rules true records := congrArg (fun o => o.1.1) hrun
    rw [hrep, hrules]
    decide +kernel
  obtain ⟨hcounts, htransactions⟩ := evaluate_counts e records true false h "Rides"
  exact ⟨hone, hget, hcounts, htransactions hone 2 hget⟩

/-- One ride under two rules of one name: the name applied to one transaction of one, and is counted twice. -/
theorem evaluate_counts_namesakes :
    let e : Engine MemoryStore EventLog := ⟨⟨[.rides, marking]⟩, .all, ⟨0, 0⟩⟩
    let h : Host := ⟨.empty, .seeded 0, [], []⟩
    let ride := Record.ofList [("id", .text "a"), ("payee_name", .text "Uber")]
    let rules := (e.loadRules.run h).1
    let rep := ((evaluate e [ride] true false).run h).1.1
    rep.total = 1 ∧ ([ride].countP fun r => "Rides" ∈ (applyRules rules r e.now e.sink).1.applied) = 1 ∧
      rep.rulesApplied.get? "Rides" = some 2 := by
  intro e h ride rules rep
  have hrules : rules = [.rides, marking] :=
    (e.run_loadRules h).trans (eq_byPriority_iff.2 ⟨by decide, fun p => rfl⟩).symm
  have hrep : rep = Batch.report rules true [ride] := by
    obtain ⟨s, h', hrun⟩ := run_evaluate e [ride] true false h
    exact congrArg (fun o => o.1.1) hrun
  rw [hrep, hrules]
  exact ⟨by decide +kernel, by decide +kernel, by decide +kernel⟩

end App

end BudgetRules
