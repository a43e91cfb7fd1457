import BudgetRules.Record
import BudgetRules.Regex.Meaning
import BudgetRules.Vocabulary

/-!
# Conditions

A condition looks at one field of a record.  A field that is missing or null satisfies no condition.
Texts are compared without regard to case: both sides are lower-cased first, or a regular expression
is searched that ignores case.  An operand that is no number, or no regular expression, is satisfied
by nothing.
-/

namespace BudgetRules

/-- A predicate over one field of a record. -/
structure Condition where
  field : ConditionField
  operator : ConditionOperator
  /-- the operand as it was written -/
  value : String
deriving DecidableEq

/-- Does `part` occur in a text? -/
def occursIn (part : List Char) : List Char → Bool
  | [] => part.isEmpty
  | c :: cs => part.isPrefixOf (c :: cs) || occursIn part cs

namespace Condition

/-- The condition that a user wrote in three parts. -/
def read (field operator value : String) : Except UnknownWord Condition := do
  return ⟨← Vocabulary.read field, ← Vocabulary.read operator, value⟩

/-- Compares a value with the operand as numbers. -/
def compares (c : Condition) (order : Binary64 → Binary64 → Bool) (actual : FieldValue) : Bool :=
  match Binary64.ofText? (Unicode.trim c.value.toList), actual.asNumber? with
  | some threshold, some x => order x threshold
  | _, _ => false

/-- Does a value other than null satisfy the condition? -/
def accepts (c : Condition) (actual : FieldValue) : Bool :=
  let text := Unicode.lowercase actual.toText.toList
  let part := Unicode.lowercase c.value.toList
  match c.operator with
  | .equals => text == part
  | .contains => occursIn part text
  | .startsWith => part.isPrefixOf text
  | .endsWith => part.isSuffixOf text
  | .greaterThan => c.compares (fun x t => t.lt x) actual
  | .lessThan => c.compares (fun x t => x.lt t) actual
  | .regex =>
    match Regex.ofText? c.value.toList with
    | some r => r.search actual.toText.toList
    | none => false

/-- Does a record satisfy the condition? -/
def holds (c : Condition) (r : Record) : Bool :=
  match r.present? c.field.name with
  | some v => c.accepts v
  | none => false

def text (c : Condition) : String := s!"{c.field.name} {c.operator.name} '{c.value}'"

def toJson (c : Condition) : Json :=
  .obj [("field", Vocabulary.toJson c.field), ("operator", Vocabulary.toJson c.operator),
    ("value", .str c.value)]

/-- A condition of which some fields have been read. -/
structure Parts where
  field : Option ConditionField
  operator : Option ConditionOperator
  value : Option String

def fields : List (Json.Field Parts) :=
  [.of "field" (·.field) (fun p a => { p with field := some a }) Vocabulary.decoder false,
    .of "operator" (·.operator) (fun p a => { p with operator := some a })
      Vocabulary.decoder false,
    .of "value" (·.value) (fun p a => { p with value := some a }) Json.Decoder.text false]

def decoder : Json.Decoder Condition := fun depth t => do
  let p ← Json.Decoder.struct "Condition" fields ⟨none, none, none⟩ depth t
  return ⟨← Json.required "field" p.field, ← Json.required "operator" p.operator,
    ← Json.required "value" p.value⟩

end Condition

end BudgetRules
