import BudgetRules.Event.Sink
import BudgetRules.Rule

/-!
# Rules one after the other

Each rule sees the record as the rules before it left it.  A rule has applied to a record if its conditions
match and its actions change something; a rule that is disabled is passed over.  Events go to a sink and
have no part in the outcome.
-/

namespace BudgetRules

/-- A record after some rules. -/
structure Outcome where
  record : Record
  /-- the names of the rules that changed something, in their order -/
  applied : List String

namespace Outcome

def isModified (o : Outcome) : Bool := !o.applied.isEmpty

end Outcome

namespace Cascade

/-- The entry for a rule that is passed over. -/
def skipped (now : Timestamp) (transaction : String) (rule : Rule) : Entry where
  level := .debug
  timestamp := now
  transaction := some transaction
  rule := some rule.name
  message := "Skipping disabled rule"
  metadata := []

/-- The entry for a rule that changed a record. -/
def changed (now : Timestamp) (transaction : String) (rule : Rule) : Entry where
  level := .info
  timestamp := now
  transaction := some transaction
  rule := some rule.name
  message := s!"Applied rule '{rule.name}' to transaction {transaction}"
  metadata := [("priority", s!"{rule.priority.toInt}")]

variable {σ : Type} [EventSink σ]

/-- The rest of the rules over what the record has become; `transaction` is what events call it. -/
def run (now : Timestamp) (transaction : String) : List Rule → Record → σ → Outcome × σ
  | [], r, s => (⟨r, []⟩, s)
  | rule :: rest, r, s =>
    if !rule.enabled then run now transaction rest r (EventSink.offer s (skipped now transaction rule))
    else if !rule.holds r then run now transaction rest r s
    else
      let next := rule.applyActions r
      if next == r then run now transaction rest r s
      else
        let (o, s) :=
          run now transaction rest next (EventSink.offer s (changed now transaction rule))
        (⟨o.record, rule.name :: o.applied⟩, s)

end Cascade

/-- Some rules in their order over one record, and the sink after the events. -/
def applyRules {σ : Type} [EventSink σ] (rules : List Rule) (r : Record) (now : Timestamp) (s : σ) :
    Outcome × σ :=
  Cascade.run now r.label rules r s

end BudgetRules
