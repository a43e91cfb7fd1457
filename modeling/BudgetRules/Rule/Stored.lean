import BudgetRules.Rule

/-!
# Rules in storage

A stored rule is an object with the fields of a rule in their order.  Fields that have a default may
be left out, the identity among them; a rule without one gets a new one every time it is read, so what
is read is a draft and perhaps an identity.
-/

namespace BudgetRules

/-- A rule as it is read, with its identity if it is written. -/
structure StoredRule where
  id : Option String
  draft : RuleDraft
deriving DecidableEq

/-- The stored form of a rule. -/
def Rule.toJson (r : Rule) : Json :=
  .obj [("id", .str r.id), ("name", .str r.name), ("description", .str r.description),
    ("conditions", .arr (r.conditions.map Condition.toJson)),
    ("actions", .arr (r.actions.map Action.toJson)), ("enabled", .bool r.enabled),
    ("priority", .num (.int r.priority.toInt)), ("logic_operator", Vocabulary.toJson r.logic)]

/-- The stored form of a list of rules. -/
def Rule.listToJson (rules : List Rule) : Json := .arr (rules.map Rule.toJson)

namespace StoredRule

/-- A rule of which some fields have been read. -/
structure Parts where
  id : Option String
  name : Option String
  description : Option String
  conditions : Option (List Condition)
  actions : Option (List Action)
  enabled : Option Bool
  priority : Option Int64
  logic : Option LogicOperator

def Parts.empty : Parts := ⟨none, none, none, none, none, none, none, none⟩

open Json in
def fields : List (Json.Field Parts) :=
  [.of "id" (·.id) (fun p a => { p with id := some a }) Decoder.text true,
    .of "name" (·.name) (fun p a => { p with name := some a }) Decoder.text false,
    .of "description" (·.description) (fun p a => { p with description := some a })
      Decoder.text true,
    .of "conditions" (·.conditions) (fun p a => { p with conditions := some a })
      (Decoder.list Condition.decoder) false,
    .of "actions" (·.actions) (fun p a => { p with actions := some a })
      (Decoder.list Action.decoder) false,
    .of "enabled" (·.enabled) (fun p a => { p with enabled := some a }) Decoder.bool true,
    .of "priority" (·.priority) (fun p a => { p with priority := some a }) Decoder.int64 true,
    .of "logic_operator" (·.logic) (fun p a => { p with logic := some a })
      Vocabulary.decoder true]

/-- The rule of the fields that have been read, defaults in place of the others. -/
def Parts.finish (p : Parts) : Except Json.DecodeError StoredRule := do
  return {
    id := p.id
    draft := {
      name := ← Json.required "name" p.name
      description := p.description.getD ""
      conditions := ← Json.required "conditions" p.conditions
      actions := ← Json.required "actions" p.actions
      enabled := p.enabled.getD true
      priority := p.priority.getD 0
      logic := p.logic.getD .and } }

def decoder : Json.Decoder StoredRule := fun depth t => do
  (← Json.Decoder.struct "Rule" fields .empty depth t).finish

/-- The rule, with the given identity if it has none of its own. -/
def withId (s : StoredRule) (fresh : String) : Rule := ⟨s.draft, s.id.getD fresh⟩

end StoredRule

/-- The rules written in a text. -/
def Rule.readList (text : String) : Except Json.DecodeError (List StoredRule) :=
  Json.decodeText (Json.Decoder.list StoredRule.decoder) text

/-- The rule written in a text. -/
def Rule.readOne (text : String) : Except Json.DecodeError StoredRule :=
  Json.decodeText StoredRule.decoder text

end BudgetRules
