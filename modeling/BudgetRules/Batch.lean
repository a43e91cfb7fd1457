import BudgetRules.Cascade
import BudgetRules.Fingerprint
import BudgetRules.Report

/-!
# Batches

A batch runs the same rules over a list of records and reports what changed.  `Batch.run` takes the records one
after the other.  `Batch.runApart` gives each record a sink of its own, so that the records can be
evaluated in any order, and passes the entries on afterwards in the order of the records; report and
sink come out as with `run`.
-/

namespace BudgetRules

/-- Keeps the entries of the levels that another sink wants. -/
structure EntryBuffer where
  wanted : Level → Bool
  entries : List Entry

instance : EventSink EntryBuffer where
  enabled b level := b.wanted level
  emit b e := { b with entries := b.entries ++ [e] }
  drain b := ([], b)

namespace Batch

variable {σ : Type} [EventSink σ]

/-- The entry that sums up a batch. -/
def summary (now : Timestamp) (r : Report) : Entry where
  level := .info
  timestamp := now
  transaction := none
  rule := none
  message := s!"Processed {r.total} transactions, {r.modified} modified"
  metadata := [("dry_run", if r.dryRun then "true" else "false"),
    ("rules_fingerprint", r.fingerprint)]

/-- The report and the sink after one more record. -/
def step (rules : List Rule) (now : Timestamp) (acc : Report × σ) (r : Record) : Report × σ :=
  let (o, s) := applyRules rules r now acc.2
  (acc.1.add r o.record o.applied, s)

/-- The summary put at the end of a batch. -/
def close (now : Timestamp) (acc : Report × σ) : Report × σ :=
  (acc.1, EventSink.offer acc.2 (summary now acc.1))

/-- The rules over a list of records, one after the other. -/
def run (rules : List Rule) (now : Timestamp) (dryRun : Bool) (records : List Record) (s : σ) :
    Report × σ :=
  close now (records.foldl (step rules now) (.empty dryRun (Rule.fingerprint rules), s))

/-- The outcome for a record on its own, with the entries that are wanted of it. -/
def evaluate (rules : List Rule) (now : Timestamp) (wanted : Level → Bool) (r : Record) :
    Record × Outcome × List Entry :=
  let (o, buffer) := applyRules rules r now ⟨wanted, []⟩
  (r, o, EntryBuffer.entries buffer)

/-- The report and the sink after one more record that has been evaluated. -/
def collect (acc : Report × σ) : Record × Outcome × List Entry → Report × σ
  | (r, o, entries) => (acc.1.add r o.record o.applied, entries.foldl EventSink.emit acc.2)

/-- The rules over a list of records, each evaluated on its own. -/
def runApart (rules : List Rule) (now : Timestamp) (dryRun : Bool) (records : List Record)
    (s : σ) : Report × σ :=
  let evaluated := records.map (evaluate rules now (EventSink.enabled s))
  close now (evaluated.foldl collect (.empty dryRun (Rule.fingerprint rules), s))

end Batch

end BudgetRules
