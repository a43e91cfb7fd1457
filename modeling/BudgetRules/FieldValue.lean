import BudgetRules.Binary64.Reader
import BudgetRules.Json.Decode
import BudgetRules.Unicode.Blank

/-!
# Values of a record's fields

A field holds nothing, a flag, a number, a text, or a list or an object that is carried through
untouched.  Every number directly in a field is a double; numbers inside lists and objects stay as
they are written.
-/

namespace BudgetRules

/-- The value of a field. -/
inductive FieldValue
  | null
  | bool (b : Bool)
  | number (x : Binary64)
  | text (s : String)
  /-- a list or an object -/
  | other (j : Json)

namespace FieldValue

/-- Equality of values; numbers are compared as numbers. -/
def beq : FieldValue → FieldValue → Bool
  | .null, .null => true
  | .bool a, .bool b => a == b
  | .number x, .number y => x == y
  | .text s, .text t => s == t
  | .other a, .other b => a == b
  | _, _ => false

instance : BEq FieldValue := ⟨beq⟩

/-- Does a condition treat the value as missing? -/
def isNull : FieldValue → Bool
  | .null => true
  | _ => false

/-- The text of a value, as conditions see it and as actions extend it. -/
def toText : FieldValue → String
  | .null => ""
  | .bool b => if b then "true" else "false"
  | .number x => x.toText
  | .text s => s
  | .other j => j.compact

/-- The number that a value stands for: a number itself, or a text that is one but for blanks
around it. -/
def asNumber? : FieldValue → Option Binary64
  | .number x => some x
  | .text s => Binary64.ofText? (Unicode.trim s.toList)
  | _ => none

def ofJson : Json → FieldValue
  | .null => .null
  | .bool b => .bool b
  | .num (.int i) => .number (Binary64.ofInt i)
  | .num (.double x) => .number x
  | .str s => .text s
  | j => .other j

def toJson : FieldValue → Json
  | .null => .null
  | .bool b => .bool b
  | .number x => .num (.double x)
  | .text s => .str s
  | .other j => j

/-- A field may hold any value of JSON. -/
def decoder : Json.Decoder FieldValue := fun depth t => (Json.Decoder.json depth t).map ofJson

end FieldValue

end BudgetRules
