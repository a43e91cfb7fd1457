import BudgetRules.Action
import BudgetRules.Condition

/-!
# Rules

A draft is what a user writes: a name, conditions combined by a logic operator, and actions in order.  A
rule is a draft with an identity that stays the same when the rule is revised.
-/

namespace BudgetRules

/-- The contents of a rule. -/
structure RuleDraft where
  name : String
  description : String
  conditions : List Condition
  actions : List Action
  enabled : Bool
  /-- higher ones run first -/
  priority : Int64
  logic : LogicOperator
deriving DecidableEq

/-- A rule that is stored. -/
structure Rule extends RuleDraft where
  id : String
deriving DecidableEq

/-- Why a draft is not fit to be a rule. -/
inductive InvalidRule
  | blankName
deriving DecidableEq

def InvalidRule.text : InvalidRule → String
  | .blankName => "Invalid rule: Name cannot be empty"

/-- What is odd about a rule that may be stored all the same. -/
inductive RuleWarning
  | noConditions
  | noActions
deriving DecidableEq

def RuleWarning.text : RuleWarning → String
  | .noConditions => "Rule has no conditions. It will not match any transactions."
  | .noActions => "Rule has no actions. It will not modify transactions."

namespace RuleDraft

/-- An enabled draft with no conditions and no actions. -/
def named (name : String) : RuleDraft := ⟨name, "", [], [], true, 0, .and⟩

/-- The draft as a rule with an identity; its name must not be blank. -/
def toRule (d : RuleDraft) (id : String) : Except InvalidRule Rule :=
  if Unicode.allBlank d.name then .error .blankName else .ok ⟨d, id⟩

/-- Do the conditions match a record?  Without conditions, none does. -/
def holds (d : RuleDraft) (r : Record) : Bool :=
  if d.conditions.isEmpty then false
  else
    match d.logic with
    | .and => d.conditions.all (·.holds r)
    | .or => d.conditions.any (·.holds r)

/-- The record after all actions in their order, whether the conditions match or not. -/
def applyActions (d : RuleDraft) (r : Record) : Record :=
  d.actions.foldl (fun r a => a.apply r) r

/-- The record after the actions if the conditions match it, and as it was otherwise. -/
def apply (d : RuleDraft) (r : Record) : Record := if d.holds r then d.applyActions r else r

def warnings (d : RuleDraft) : List RuleWarning :=
  (if d.conditions.isEmpty then [.noConditions] else []) ++
    (if d.actions.isEmpty then [.noActions] else [])

/-- The lines of a list of texts, or one line that says that there are none. -/
def listing (none : String) (texts : List String) : String :=
  if texts.isEmpty then s!"    ({none})\n" else String.join (texts.map fun t => s!"    - {t}\n")

/-- The rule as it is listed. -/
def text (d : RuleDraft) : String :=
  let status := if d.enabled then "✓" else "✗"
  s!"{status} [{d.priority.toInt}] {d.name}: {d.description}\n" ++
    s!"  Conditions ({d.logic.name}):\n" ++
    listing "No conditions" (d.conditions.map Condition.text) ++
    "  Actions:\n" ++ listing "No actions" (d.actions.map Action.text)

end RuleDraft

namespace Rule

/-- A rule with the contents of a draft and the identity of this rule. -/
def revise (r : Rule) (d : RuleDraft) : Except InvalidRule Rule := d.toRule r.id

end Rule

end BudgetRules
