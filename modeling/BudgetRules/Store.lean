import BudgetRules.Rule
import BudgetRules.Script

/-!
# Stores of rules

A `RuleStore` keeps a list of rules by their identities.  Its operations can fail; those that users call
never do: they tell the host what went wrong and answer with no rules, or with `false`.

Saving puts a rule in the place of the first one with its identity, and at the end if there is none:

    (upsert l r).find? (·.id = r.id) = some r
    k ≠ r.id → (upsert l r).find? (·.id = k) = l.find? (·.id = k)
-/

namespace BudgetRules

/-- Why a store cannot do something. -/
inductive StoreError
  | file (path : String) (error : FileError)
  | corrupt (path : String) (reason : String)
deriving DecidableEq

def StoreError.text : StoreError → String
  | .file path error => s!"Rule storage I/O failed at {path}: {error.text}"
  | .corrupt path reason => s!"Rule storage at {path} is corrupt: {reason}"

/-- A rule put in the place of the first one with its identity, or at the end. -/
def upsert : List Rule → Rule → List Rule
  | [], rule => [rule]
  | r :: rest, rule => if r.id = rule.id then rule :: rest else r :: upsert rest rule

/-- The rules without those of an identity. -/
def without (rules : List Rule) (id : String) : List Rule := rules.filter (·.id ≠ id)

/-- A type whose values keep rules. -/
class RuleStore (σ : Type) where
  /-- all rules in their order -/
  load : σ → Script (Except StoreError (List Rule))
  save : σ → Rule → Script (Except StoreError Unit × σ)
  /-- takes away the rules of an identity and says whether there were any -/
  delete : σ → String → Script (Except StoreError Bool × σ)

namespace RuleStore

variable {σ : Type} [RuleStore σ]

/-- All rules; none if they cannot be loaded. -/
def rules (s : σ) : Script (List Rule) := do
  match ← load s with
  | .ok rules => return rules
  | .error e =>
    Script.tell .error "error loading rules from storage" [("error", e.text)]
    return []

/-- The first rule of an identity. -/
def find? (s : σ) (id : String) : Script (Option Rule) := do
  return (← rules s).find? (·.id = id)

/-- Saves a rule and says whether that worked. -/
def put (s : σ) (rule : Rule) : Script (Bool × σ) := do
  match ← save s rule with
  | (.ok _, s) => return (true, s)
  | (.error e, s) =>
    Script.tell .error "failed to save rule" [("error", e.text), ("rule_id", rule.id)]
    return (false, s)

/-- Takes away the rules of an identity and says whether there were any and that worked. -/
def remove (s : σ) (id : String) : Script (Bool × σ) := do
  match ← delete s id with
  | (.ok b, s) => return (b, s)
  | (.error e, s) =>
    Script.tell .error "failed to delete rule" [("error", e.text), ("rule_id", id)]
    return (false, s)

end RuleStore

/-- Rules kept as a value. -/
structure MemoryStore where
  rules : List Rule
deriving DecidableEq

instance : RuleStore MemoryStore where
  load s := return .ok s.rules
  save s rule := return (.ok (), ⟨upsert s.rules rule⟩)
  delete s id := return (.ok (decide ((without s.rules id).length < s.rules.length)),
    ⟨without s.rules id⟩)

end BudgetRules
