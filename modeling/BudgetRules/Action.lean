import BudgetRules.Record
import BudgetRules.Vocabulary

/-!
# Actions

An action writes one field of a record.  Whatever the field held, it holds a text afterwards.
-/

namespace BudgetRules

/-- One thing to do to a field. -/
structure Action where
  field : ActionField
  operation : ActionOperation
  /-- not looked at by `clear` -/
  value : String
deriving DecidableEq

namespace Action

/-- An action; one that clears has no value. -/
def make (field : ActionField) (operation : ActionOperation) (value : String) : Action :=
  ⟨field, operation, if operation = .clear then "" else value⟩

/-- The action that a user wrote in three parts. -/
def read (field operation value : String) : Except UnknownWord Action := do
  return make (← Vocabulary.read field) (← Vocabulary.read operation) value

/-- The text that takes the place of the current one.  A value is added with a blank between, unless there
is nothing to add it to. -/
def newText (a : Action) (current : String) : String :=
  match a.operation with
  | .set => a.value
  | .append => if current.isEmpty then a.value else current ++ " " ++ a.value
  | .prepend => if current.isEmpty then a.value else a.value ++ " " ++ current
  | .clear => ""

/-- The record after the action. -/
def apply (a : Action) (r : Record) : Record :=
  r.set a.field.name (.text (a.newText (r.textOrEmpty a.field.name)))

def text (a : Action) : String :=
  match a.operation with
  | .clear => s!"{a.field.name} {a.operation.name}"
  | _ => s!"{a.field.name} {a.operation.name} '{a.value}'"

def toJson (a : Action) : Json :=
  .obj [("field", Vocabulary.toJson a.field), ("operation", Vocabulary.toJson a.operation),
    ("value", .str a.value)]

/-- An action of which some fields have been read. -/
structure Parts where
  field : Option ActionField
  operation : Option ActionOperation
  value : Option String

def fields : List (Json.Field Parts) :=
  [.of "field" (·.field) (fun p a => { p with field := some a }) Vocabulary.decoder false,
    .of "operation" (·.operation) (fun p a => { p with operation := some a })
      Vocabulary.decoder false,
    .of "value" (·.value) (fun p a => { p with value := some a }) Json.Decoder.text true]

/-- A stored action; a missing value is empty. -/
def decoder : Json.Decoder Action := fun depth t => do
  let p ← Json.Decoder.struct "Action" fields ⟨none, none, none⟩ depth t
  return ⟨← Json.required "field" p.field, ← Json.required "operation" p.operation,
    p.value.getD ""⟩

end Action

end BudgetRules
