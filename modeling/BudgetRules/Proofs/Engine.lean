import BudgetRules.Proofs.Batch
import BudgetRules.Proofs.Script

/-!
# Runs of an engine

An engine that evaluates its records apart, in any order, asks its host for the same, reports the same and
leaves the same sink as one that takes them one after the other, if entries do not change what its sink
wants.  With any sink, what it reports hangs on the rules and the records alone, and nothing but the sink
is new in it afterwards:

    (e.process records d).run h = ((report rules d records, { e with sink := … }), …)        (run_process)
-/

namespace BudgetRules

/-- A rule that files rides under transport. -/
def Rule.rides : Rule :=
  ⟨⟨"Rides", "", [⟨.payeeName, .contains, "uber"⟩], [⟨.categoryName, .set, "Transport"⟩], true, 0, .and⟩, "r"⟩

namespace Engine

variable {σ τ : Type} [RuleStore σ] [EventSink τ]

/-- The rules over some records, which are evaluated in the given turns. -/
def processInTurns (e : Engine σ τ) (turns : List Nat) (records : List Record) (dryRun : Bool) :
    Script (Report × Engine σ τ) := do
  let (report, s) := Batch.runInTurns turns (← e.loadRules) e.now dryRun records e.sink
  return (report, ← e.settle s)

/-- Neither evaluating records apart nor the order in which that is done shows in the report, in the sink
or to the host. -/
theorem processInTurns_eq_process {e : Engine σ τ} (h : EventSink.Steady e.sink) {turns : List Nat}
    {records : List Record} (ht : ∀ i < records.length, i ∈ turns) (dryRun : Bool) :
    e.processInTurns turns records dryRun = e.process records dryRun ∧
      e.processApart records dryRun = e.process records dryRun := by
  constructor
  · unfold processInTurns process
    simp only [Batch.runInTurns_eq_run h ht]
  · unfold processApart process
    simp only [Batch.runApart_eq_run h]

/-- One rule, a log of what matters, and two records in the turns 1, 0 and 1 again. -/
theorem processInTurns_eq_process_two_records :
    let e : Engine MemoryStore EventLog := ⟨⟨[.rides]⟩, .keeping .info, ⟨0, 0⟩⟩
    let records := [Record.ofList [("id", .text "a"), ("payee_name", .text "Uber")],
      Record.ofList [("id", .text "b")]]
    EventSink.Steady e.sink ∧ (∀ i < records.length, i ∈ [1, 0, 1]) ∧
      e.processInTurns [1, 0, 1] records false = e.process records false ∧
      e.processApart records false = e.process records false :=
  ⟨EventLog.steady _, by decide, processInTurns_eq_process (EventLog.steady _) (by decide) false⟩

/-! ## What a run reports -/

omit [EventSink τ] in
theorem run_loadRules (e : Engine σ τ) (h : Host) :
    (e.loadRules.run h).1 = byPriority ((RuleStore.rules e.store).run h).1 := by
  unfold loadRules
  rw [Script.run_andThen]
  rfl

omit [RuleStore σ] in
/-- An engine settles with nothing but its sink changed. -/
theorem run_settle (e : Engine σ τ) (s : τ) (h : Host) :
    ∃ s' h', (e.settle s).run h = ({ e with sink := s' }, h') := by
  unfold settle
  exact ⟨_, _, Script.run_andThen _ _ h⟩

theorem run_processOne (e : Engine σ τ) (r : Record) (h : Host) :
    ∃ s h', (e.processOne r).run h =
      ((Cascade.outcome (e.loadRules.run h).1 r, { e with sink := s }), h') := by
  unfold processOne
  simp only [Script.run_andThen]
  obtain ⟨s, h', hs⟩ := run_settle e
    (applyRules (e.loadRules.run h).1 r e.now e.sink).2 (e.loadRules.run h).2
  exact ⟨s, h', by rw [hs, applyRules_eq]; rfl⟩

theorem run_process (e : Engine σ τ) (records : List Record) (dryRun : Bool) (h : Host) :
    ∃ s h', (e.process records dryRun).run h =
      ((Batch.report (e.loadRules.run h).1 dryRun records, { e with sink := s }), h') := by
  unfold process
  simp only [Script.run_andThen]
  obtain ⟨s, h', hs⟩ := run_settle e
    (Batch.run (e.loadRules.run h).1 e.now dryRun records e.sink).2 (e.loadRules.run h).2
  exact ⟨s, h', by rw [hs, Batch.run_fst]; rfl⟩

theorem run_processApart (e : Engine σ τ) (records : List Record) (dryRun : Bool) (h : Host) :
    ∃ s h', (e.processApart records dryRun).run h =
      ((Batch.report (e.loadRules.run h).1 dryRun records, { e with sink := s }), h') := by
  unfold processApart
  simp only [Script.run_andThen]
  obtain ⟨s, h', hs⟩ := run_settle e
    (Batch.runApart (e.loadRules.run h).1 e.now dryRun records e.sink).2 (e.loadRules.run h).2
  exact ⟨s, h', by rw [hs, Batch.runApart_fst]; rfl⟩

end Engine

end BudgetRules
