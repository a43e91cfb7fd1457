import BudgetRules.Binary64

/-!
# JSON values

A number written as a whole number that fits 64 bits, signed or unsigned, stays a whole number;
any other number is a double.  So `1` and `1.0` are different values.

Objects keep their members in a list.  An object read as a value has its names in ascending
order and each name once; an object that describes a structure has its fields in the order in
which they are declared.
-/

namespace BudgetRules

/-- A number of a JSON text. -/
inductive Json.Number
  | int (i : Int)
  | double (x : Binary64)
deriving DecidableEq

/-- A JSON value. -/
inductive Json
  | null
  | bool (b : Bool)
  | num (n : Json.Number)
  | str (s : String)
  | arr (items : List Json)
  | obj (members : List (String × Json))

namespace Json

/-- Two numbers are equal if they are of one kind and have one value. -/
def Number.beq : Number → Number → Bool
  | .int i, .int j => i == j
  | .double x, .double y => x == y
  | _, _ => false

mutual

/-- Equality of values; doubles are compared as numbers, so `0.0` equals `-0.0`. -/
def beq : Json → Json → Bool
  | .null, .null => true
  | .bool a, .bool b => a == b
  | .num a, .num b => a.beq b
  | .str a, .str b => a == b
  | .arr a, .arr b => beqItems a b
  | .obj a, .obj b => beqMembers a b
  | _, _ => false
termination_by structural a => a

def beqItems : List Json → List Json → Bool
  | [], [] => true
  | a :: r, b :: s => a.beq b && beqItems r s
  | _, _ => false
termination_by structural a => a

def beqMembers : List (String × Json) → List (String × Json) → Bool
  | [], [] => true
  | (k, a) :: r, (l, b) :: s => k == l && a.beq b && beqMembers r s
  | _, _ => false
termination_by structural a => a

end

instance : BEq Json := ⟨beq⟩

/-- The JSON whole number of a count. -/
def ofNat (n : Nat) : Json := .num (.int n)

/-- A text if there is one, null otherwise. -/
def ofText? : Option String → Json
  | some s => .str s
  | none => .null

/-- A list of texts. -/
def ofTexts (l : List String) : Json := .arr (l.map .str)

end Json

end BudgetRules
