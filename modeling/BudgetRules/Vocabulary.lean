import BudgetRules.Json.Decode
import BudgetRules.Unicode.Blank
import BudgetRules.Unicode.Lowercase

/-!
# Closed sets of words

The fields, operators and operations of a rule are closed sets, each member with a word of its own.  A user
may write the word in any case and with blanks around it; a stored rule has exactly the word.
-/

namespace BudgetRules

/-- A closed set of things that have words. -/
class Vocabulary (α : Type) where
  /-- what a member is called in messages -/
  kind : String
  all : List α
  word : α → String

/-- A word that a vocabulary does not have. -/
structure UnknownWord where
  kind : String
  raw : String
  known : List String
deriving DecidableEq

def UnknownWord.text (e : UnknownWord) : String :=
  let known := ", ".intercalate e.known
  s!"Unknown {e.kind}: '{e.raw}' (expected one of: {known})"

namespace Vocabulary

variable {α : Type} [Vocabulary α]

/-- The words of a vocabulary in their order. -/
def words (α : Type) [Vocabulary α] : List String := (all : List α).map word

/-- The member with exactly this word. -/
def ofWord? (w : String) : Option α := (all : List α).find? fun a => word a == w

/-- The member whose word a user wrote, in any case and with blanks around it. -/
def read (raw : String) : Except UnknownWord α :=
  match ofWord? (String.ofList (Unicode.lowercase (Unicode.trim raw.toList))) with
  | some a => .ok a
  | none => .error ⟨kind α, raw, words α⟩

/-- The member whose word stands in a JSON text. -/
def decoder : Json.Decoder α := fun depth t => do
  let w ← Json.Decoder.tag (words α) depth t
  match ofWord? w with
  | some a => return a
  | none => .error (.unknownTag w (words α))

def toJson (a : α) : Json := .str (word a)

end Vocabulary

/-! ## The words of rules -/

/-- The fields of a transaction that a condition may look at. -/
inductive ConditionField
  | payeeName
  | accountName
  | outflow
  | inflow
  | memo
  | categoryName
deriving DecidableEq

/-- How a condition compares a field with its operand. -/
inductive ConditionOperator
  | equals
  | contains
  | startsWith
  | endsWith
  | greaterThan
  | lessThan
  | regex
deriving DecidableEq

/-- The fields of a transaction that an action may write. -/
inductive ActionField
  | payeeName
  | categoryName
  | memo
deriving DecidableEq

/-- What an action does to its field. -/
inductive ActionOperation
  | set
  | append
  | prepend
  | clear
deriving DecidableEq

/-- How a rule combines its conditions. -/
inductive LogicOperator
  | and
  | or
deriving DecidableEq

instance : Vocabulary ConditionField where
  kind := "condition field"
  all := [.payeeName, .accountName, .outflow, .inflow, .memo, .categoryName]
  word
    | .payeeName => "payee_name"
    | .accountName => "account_name"
    | .outflow => "outflow"
    | .inflow => "inflow"
    | .memo => "memo"
    | .categoryName => "category_name"

instance : Vocabulary ConditionOperator where
  kind := "condition operator"
  all := [.equals, .contains, .startsWith, .endsWith, .greaterThan, .lessThan, .regex]
  word
    | .equals => "equals"
    | .contains => "contains"
    | .startsWith => "starts_with"
    | .endsWith => "ends_with"
    | .greaterThan => "greater_than"
    | .lessThan => "less_than"
    | .regex => "regex"

instance : Vocabulary ActionField where
  kind := "action field"
  all := [.payeeName, .categoryName, .memo]
  word
    | .payeeName => "payee_name"
    | .categoryName => "category_name"
    | .memo => "memo"

instance : Vocabulary ActionOperation where
  kind := "action operation"
  all := [.set, .append, .prepend, .clear]
  word
    | .set => "set"
    | .append => "append"
    | .prepend => "prepend"
    | .clear => "clear"

instance : Vocabulary LogicOperator where
  kind := "logic operator"
  all := [.and, .or]
  word
    | .and => "and"
    | .or => "or"

/-- The name of the record field that a condition looks at. -/
def ConditionField.name (f : ConditionField) : String := Vocabulary.word f

def ConditionOperator.name (o : ConditionOperator) : String := Vocabulary.word o

/-- The name of the record field that an action writes. -/
def ActionField.name (f : ActionField) : String := Vocabulary.word f

def ActionOperation.name (o : ActionOperation) : String := Vocabulary.word o

def LogicOperator.name (l : LogicOperator) : String := Vocabulary.word l

end BudgetRules
