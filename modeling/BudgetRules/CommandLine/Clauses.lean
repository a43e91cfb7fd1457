import BudgetRules.CommandLine.Failure
import BudgetRules.Rule

/-!
# Conditions and actions as arguments

A condition is written `field:operator:value` and an action `field:operation:value`, where the value of an action
may be left out.  Colons after the second belong to the value.
-/

namespace BudgetRules.CommandLine

/-- The characters before the first colon, and those after it if there is one. -/
def cutAtColon (cs : List Char) : List Char × Option (List Char) :=
  match cs.dropWhile (· ≠ ':') with
  | [] => (cs.takeWhile (· ≠ ':'), none)
  | _ :: r => (cs.takeWhile (· ≠ ':'), some r)

/-- The parts of a text before the first colon, up to the second, and after it. -/
def cutTwice (text : String) : String × Option (String × Option String) :=
  let (a, r) := cutAtColon text.toList
  (String.ofList a, r.map fun r =>
    let (b, c) := cutAtColon r
    (String.ofList b, c.map String.ofList))

/-- The condition of an argument. -/
def readCondition (raw : String) : Except Failure Condition :=
  match cutTwice raw with
  | (field, some (operator, some value)) =>
    match Condition.read field operator value with
    | .ok c => .ok c
    | .error e => .error ⟨s!"invalid condition '{raw}'", [e.text]⟩
  | _ => .error (.of s!"condition '{raw}' must look like field:operator:value")

/-- The action of an argument. -/
def readAction (raw : String) : Except Failure Action :=
  match cutTwice raw with
  | (field, some (operation, value)) =>
    match Action.read field operation (value.getD "") with
    | .ok a => .ok a
    | .error e => .error ⟨s!"invalid action '{raw}'", [e.text]⟩
  | _ => .error (.of s!"action '{raw}' must look like field:operation[:value]")

/-- The logic operator of an argument. -/
def readLogic (raw : String) : Except Failure LogicOperator :=
  match Vocabulary.read raw with
  | .ok l => .ok l
  | .error e => .error (.of e.text)

end BudgetRules.CommandLine
