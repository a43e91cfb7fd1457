import BudgetRules.Batch
import BudgetRules.Store

/-!
# Engines

An `Engine` runs the rules of a store.  Rules of a higher priority run first; rules of one priority run in
the order of the store.  An engine keeps nothing between two runs but its store and its sink.
-/

namespace BudgetRules

/-- The rules in the order in which they run. -/
def byPriority (rules : List Rule) : List Rule :=
  rules.mergeSort fun a b => decide (b.priority ≤ a.priority)

/-- A store of rules, and where the events of running them go. -/
structure Engine (σ τ : Type) where
  store : σ
  sink : τ
  /-- the time that events are given -/
  now : Timestamp

namespace Engine

variable {σ τ : Type} [RuleStore σ] [EventSink τ]

/-- All rules in the order in which they run, disabled ones included. -/
def loadRules (e : Engine σ τ) : Script (List Rule) := do
  return byPriority (← RuleStore.rules e.store)

/-- The engine with a sink, whose notices are passed on to the host. -/
def settle (e : Engine σ τ) (s : τ) : Script (Engine σ τ) := do
  let (notices, s) := EventSink.drain s
  Script.tellAll notices
  return { e with sink := s }

/-- The rules over one record. -/
def processOne (e : Engine σ τ) (r : Record) : Script (Outcome × Engine σ τ) := do
  let (o, s) := applyRules (← e.loadRules) r e.now e.sink
  return (o, ← e.settle s)

/-- The rules over some records, one after the other. -/
def process (e : Engine σ τ) (records : List Record) (dryRun : Bool) :
    Script (Report × Engine σ τ) := do
  let (report, s) := Batch.run (← e.loadRules) e.now dryRun records e.sink
  return (report, ← e.settle s)

/-- The rules over some records, each evaluated on its own. -/
def processApart (e : Engine σ τ) (records : List Record) (dryRun : Bool) :
    Script (Report × Engine σ τ) := do
  let (report, s) := Batch.runApart (← e.loadRules) e.now dryRun records e.sink
  return (report, ← e.settle s)

end Engine

end BudgetRules
