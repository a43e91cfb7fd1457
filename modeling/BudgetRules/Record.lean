import BudgetRules.FieldValue
import BudgetRules.SortedMap

/-!
# Transaction records

A record is an open map from names of fields to values.  Its fields stand in the order of their names.
-/

namespace BudgetRules

/-- One entry of a ledger. -/
structure Record where
  fields : SortedMap FieldValue

namespace Record

instance : BEq Record := ⟨fun r s => r.fields == s.fields⟩

def empty : Record := ⟨.empty⟩

def ofList (l : List (String × FieldValue)) : Record := ⟨.ofList l⟩

/-- The fields in the order of their names. -/
def toList (r : Record) : List (String × FieldValue) := r.fields.entries

def get? (r : Record) (field : String) : Option FieldValue := r.fields.get? field

/-- The value of a field unless it is missing or null. -/
def present? (r : Record) (field : String) : Option FieldValue :=
  (r.get? field).filter fun v => !v.isNull

/-- The text of a field, empty if it is missing or null. -/
def textOrEmpty (r : Record) (field : String) : String :=
  match r.get? field with
  | some v => v.toText
  | none => ""

/-- The text of a field, or a placeholder if it is missing or null. -/
def textOrUnknown (r : Record) (field : String) : String :=
  match r.present? field with
  | some v => v.toText
  | none => "unknown"

def contains (r : Record) (field : String) : Bool := r.fields.contains field

/-- The record with a field set to a value. -/
def set (r : Record) (field : String) (v : FieldValue) : Record := ⟨r.fields.insert field v⟩

def erase (r : Record) (field : String) : Record := ⟨r.fields.erase field⟩

def size (r : Record) : Nat := r.fields.size

def isEmpty (r : Record) : Bool := r.fields.isEmpty

def keys (r : Record) : List String := r.fields.keys

/-- The text of the field `id`, if the record has one. -/
def id? (r : Record) : Option String := (r.present? "id").map FieldValue.toText

/-- The name under which events speak of the record. -/
def label (r : Record) : String := r.textOrUnknown "id"

def toJson (r : Record) : Json := .obj (r.toList.map fun (k, v) => (k, v.toJson))

def decoder : Json.Decoder Record := fun depth t =>
  (Json.Decoder.map FieldValue.decoder depth t).map Record.mk

end Record

end BudgetRules
