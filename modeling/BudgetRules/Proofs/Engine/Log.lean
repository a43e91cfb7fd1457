import BudgetRules.Proofs.Cascade.Turns
import BudgetRules.Proofs.Engine
import BudgetRules.Proofs.Report

/-!
# What a log says of a run

Each record of a batch contributes an entry for every rule that is disabled and for every rule that applies to it, in
the order of the rules, and the batch ends with a summary.  A log keeps those of the levels that it is for:

    Chronicle now rules r (Cascade.entries now r.label rules r)                                  (chronicle_entries)
    entries.foldl offer l = ⟨l.entries ++ entries.filter (·.level.reaches l.minLevel), l.minLevel⟩
                                                                                             (EventLog.foldl_offer)
-/

namespace BudgetRules

/-- A log takes the entries that reach its least level. -/
theorem EventLog.foldl_offer (l : EventLog) (entries : List Entry) :
    entries.foldl EventSink.offer l = ⟨l.entries ++ entries.filter (·.level.reaches l.minLevel), l.minLevel⟩ := by
  induction entries generalizing l with
  | nil => simp
  | cons e rest ih =>
    have ho : EventSink.offer l e =
        if e.level.reaches l.minLevel then ⟨l.entries ++ [e], l.minLevel⟩ else l := by
      show (if e.level.reaches l.minLevel then EventLog.emit l e else l) = _
      unfold EventLog.emit EventLog.enabled
      cases e.level.reaches l.minLevel <;> rfl
    rw [List.foldl_cons, ho, ih]
    cases hr : e.level.reaches l.minLevel <;> simp [hr]

theorem Level.reaches_trace (level : Level) : level.reaches .trace = true := by
  cases level <;> rfl

/-! ## One record -/

namespace Cascade

/-- Some entries tell what running some rules does to a record. -/
structure Chronicle (now : Timestamp) (rules : List Rule) (r : Record) (told : List Entry) : Prop where
  /-- rule by rule, with what the rules before it left -/
  inOrder : told = rules.zipIdx.flatMap fun p =>
    Cascade.told now r.label p.1 (applyRules (rules.take p.2) r now EventLog.all).1.record
  /-- the names of those that applied, rule by rule in the same way -/
  applied : (applyRules rules r now EventLog.all).1.applied = rules.zipIdx.flatMap fun p =>
    p.1.applied (applyRules (rules.take p.2) r now EventLog.all).1.record
  /-- one for each disabled rule -/
  skipped : told.filter (·.level = .debug) = (rules.filter fun rule => !rule.enabled).map (Cascade.skipped now r.label)
  /-- one for each rule that applied -/
  changed : (told.filter (·.level = .info)).map (·.rule) = (applyRules rules r now EventLog.all).1.applied.map some
  stamped : ∀ e ∈ told,
    (e.level = .debug ∨ e.level = .info) ∧ e.timestamp = now ∧ e.transaction = some (r.textOrUnknown "id")

variable {now : Timestamp} {t : String} {rule : Rule} {rules : List Rule} {r : Record}

/-- What goes rule by rule through a cascade, each rule with what the rules before it left. -/
theorem flatMap_zipIdx_cons {α : Type} (f : Rule → Record → List α) (rule : Rule) (rest : List Rule) (r : Record) :
    ((rule :: rest).zipIdx.flatMap fun p => f p.1 (outcome ((rule :: rest).take p.2) r).record) =
      f rule r ++ rest.zipIdx.flatMap fun p => f p.1 (outcome (rest.take p.2) ((rule.effect? r).getD r)).record := by
  rw [List.zipIdx_cons, List.flatMap_cons, List.zipIdx_succ, List.flatMap_map]
  simp only [List.take_succ_cons, outcome_cons]
  rfl

theorem entries_inOrder (now : Timestamp) (t : String) (rules : List Rule) (r : Record) :
    entries now t rules r = rules.zipIdx.flatMap fun p => told now t p.1 (outcome (rules.take p.2) r).record := by
  induction rules generalizing r with
  | nil => rfl
  | cons rule rest ih => rw [flatMap_zipIdx_cons (told now t), entries, ih]

theorem applied_inOrder (rules : List Rule) (r : Record) :
    (outcome rules r).applied = rules.zipIdx.flatMap fun p => p.1.applied (outcome (rules.take p.2) r).record := by
  induction rules generalizing r with
  | nil => rfl
  | cons rule rest ih => rw [flatMap_zipIdx_cons Rule.applied, outcome_cons, ih]

theorem filter_debug_told (rule : Rule) (r : Record) :
    (told now t rule r).filter (·.level = .debug) = if rule.enabled then [] else [skipped now t rule] := by
  unfold told
  cases rule.enabled with
  | false => rfl
  | true => cases (rule.effect? r).isSome <;> rfl

theorem filter_info_told (rule : Rule) (r : Record) :
    ((told now t rule r).filter (·.level = .info)).map (·.rule) = (rule.applied r).map some := by
  unfold told Rule.applied
  cases he : rule.enabled with
  | false =>
    rw [Rule.effect?_of_disabled he]
    rfl
  | true => cases (rule.effect? r).isSome <;> rfl

theorem stamped_of_mem_told {e : Entry} (h : e ∈ told now t rule r) :
    (e.level = .debug ∨ e.level = .info) ∧ e.timestamp = now ∧ e.transaction = some t := by
  unfold told at h
  split at h
  · rw [List.mem_singleton.1 h]
    exact ⟨.inl rfl, rfl, rfl⟩
  · split at h
    · rw [List.mem_singleton.1 h]
      exact ⟨.inr rfl, rfl, rfl⟩
    · cases h

theorem filter_debug_entries (rules : List Rule) (r : Record) :
    (entries now t rules r).filter (·.level = .debug) = (rules.filter fun rule => !rule.enabled).map (skipped now t) := by
  induction rules generalizing r with
  | nil => rfl
  | cons rule rest ih =>
    rw [entries, List.filter_append, filter_debug_told, ih, List.filter_cons]
    cases rule.enabled <;> rfl

theorem filter_info_entries (rules : List Rule) (r : Record) :
    ((entries now t rules r).filter (·.level = .info)).map (·.rule) = (outcome rules r).applied.map some := by
  induction rules generalizing r with
  | nil => rfl
  | cons rule rest ih =>
    rw [entries, List.filter_append, List.map_append, filter_info_told, ih, outcome_cons, List.map_append]

theorem stamped_of_mem_entries {e : Entry} (h : e ∈ entries now t rules r) :
    (e.level = .debug ∨ e.level = .info) ∧ e.timestamp = now ∧ e.transaction = some t := by
  induction rules generalizing r with
  | nil => cases h
  | cons rule rest ih =>
    rcases List.mem_append.1 h with h | h
    · exact stamped_of_mem_told h
    · exact ih h

theorem chronicle_entries (now : Timestamp) (rules : List Rule) (r : Record) :
    Chronicle now rules r (entries now r.label rules r) where
  inOrder := by
    simp only [record_applyRules]
    exact entries_inOrder now r.label rules r
  applied := by
    simp only [applyRules_eq]
    exact applied_inOrder rules r
  skipped := filter_debug_entries rules r
  changed := by
    rw [applyRules_eq]
    exact filter_info_entries rules r
  stamped := fun _ he => stamped_of_mem_entries he

end Cascade

/-! ## A batch -/

namespace Batch

variable {σ : Type} [EventSink σ]

/-- A sink is offered the entries of the records in their order, and then the summary. -/
theorem run_snd (rules : List Rule) (now : Timestamp) (dryRun : Bool) (records : List Record) (s : σ) :
    (run rules now dryRun records s).2 =
      (entries rules now records ++ [summary now (report rules dryRun records)]).foldl EventSink.offer s := by
  rw [run_eq, List.foldl_append]
  rfl

end Batch

namespace Engine

variable {σ : Type} [RuleStore σ]

theorem run_process_log (store : σ) (l : EventLog) (now : Timestamp) (records : List Record) (dryRun : Bool)
    (h : Host) :
    let rules := byPriority ((RuleStore.rules store).run h).1
    let offered := Batch.entries rules now records ++ [Batch.summary now (Batch.report rules dryRun records)]
    (((⟨store, l, now⟩ : Engine σ EventLog).process records dryRun).run h).1 =
      (Batch.report rules dryRun records,
        ⟨store, ⟨l.entries ++ offered.filter (·.level.reaches l.minLevel), l.minLevel⟩, now⟩) := by
  intro rules offered
  have hrules : ((⟨store, l, now⟩ : Engine σ EventLog).loadRules.run h).1 = rules := run_loadRules _ h
  unfold process
  simp only [Script.run_andThen, hrules]
  rw [Batch.run_fst, Batch.run_snd, EventLog.foldl_offer]
  rfl

/-- What an engine reports of a batch does not hang on its sink.  A log of all levels gains the entries of each record,
which tell rule by rule what happened to it, and the summary; any other log gains those of them that reach its least
level, in the same order.  The rules that the report names for a record are those that its entries name. -/
theorem process_chronicles (store : σ) (now : Timestamp) (records : List Record) (dryRun : Bool) (h : Host) :
    let rules := byPriority ((RuleStore.rules store).run h).1
    let run := fun l : EventLog => (((⟨store, l, now⟩ : Engine σ EventLog).process records dryRun).run h).1
    let report := (run .all).1
    let told := (run .all).2.sink.entries
    (∀ {τ : Type} [EventSink τ] (s : τ),
        (((⟨store, s, now⟩ : Engine σ τ).process records dryRun).run h).1.1 = report) ∧
      (∀ l, (run l).2.sink = ⟨l.entries ++ told.filter (·.level.reaches l.minLevel), l.minLevel⟩) ∧
      told = (records.flatMap fun r => Cascade.entries now r.label rules r) ++ [Batch.summary now report] ∧
      (Batch.summary now report).level = .info ∧ (Batch.summary now report).timestamp = now ∧
      (∀ r, Cascade.Chronicle now rules r (Cascade.entries now r.label rules r)) ∧
      report.modifications = records.filterMap fun r =>
        let o := (applyRules rules r now EventLog.all).1
        if o.applied.isEmpty || (r.diff o.record).isEmpty then none
        else some ⟨r.label, r.textOrUnknown "payee_name", o.applied, r.diff o.record⟩ := by
  intro rules run report told
  have hrun := fun l => run_process_log store l now records dryRun h
  have hreport : report = Batch.report rules dryRun records := congrArg Prod.fst (hrun .all)
  have htold : told = Batch.entries rules now records ++ [Batch.summary now report] := by
    have hall : told = [] ++ (Batch.entries rules now records ++
        [Batch.summary now (Batch.report rules dryRun records)]).filter (·.level.reaches .trace) :=
      congrArg (·.2.sink.entries) (hrun .all)
    rw [hall, List.nil_append, hreport]
    exact List.filter_eq_self.2 fun e _ => e.level.reaches_trace
  refine ⟨fun {τ} _ s => ?sinks, fun l => ?logs, htold, rfl, rfl, Cascade.chronicle_entries now rules, ?named⟩
  case sinks =>
    let e : Engine σ τ := ⟨store, s, now⟩
    obtain ⟨s', h', hprocess⟩ := e.run_process records dryRun h
    have hrules : (e.loadRules.run h).1 = rules := e.run_loadRules h
    rw [hprocess, hreport, hrules]
  case logs =>
    rw [htold, hreport]
    exact congrArg (·.2.sink) (hrun l)
  case named =>
    rw [hreport, Batch.modifications_report]
    simp only [applyRules_eq]
    rfl

end Engine

end BudgetRules
