import BudgetRules.Binary64.Shortest
import BudgetRules.Json

/-!
# Writing JSON

`compact` writes a value without blanks, `pretty` with one item a line and two blanks a level.
Texts are not escaped except for quotes, backslashes and control characters.  A double is
written with its shortest digits: in full while its point stands after the fifth place to the
left of the first digit and not beyond the sixteenth digit, and with an exponent otherwise.
-/

namespace BudgetRules.Json

/-! ## Texts and numbers -/

/-- A digit of base sixteen, in lower case. -/
def hexChar (n : Nat) : Char := if n < 10 then Char.ofNat (48 + n) else Char.ofNat (87 + n)

/-- A character inside a quoted text. -/
def escaped (c : Char) : List Char :=
  if c = '"' then ['\\', '"']
  else if c = '\\' then ['\\', '\\']
  else if c.toNat = 8 then ['\\', 'b']
  else if c.toNat = 12 then ['\\', 'f']
  else if c = '\n' then ['\\', 'n']
  else if c = '\r' then ['\\', 'r']
  else if c = '\t' then ['\\', 't']
  else if c.toNat < 32 then
    ['\\', 'u', '0', '0', hexChar (c.toNat / 16), hexChar (c.toNat % 16)]
  else [c]

/-- A text in quotes. -/
def quotedChars (s : String) : List Char := '"' :: (s.toList.flatMap escaped ++ ['"'])

/-- The digits of a double in JSON: always with a point, or with an exponent that has a sign. -/
def decimalChars (d : Binary64.Decimal) : List Char :=
  let ds := Binary64.digitsOf d.digits
  let point : Int := ds.length + d.exponent
  if d.digits = 0 then ['0', '.', '0']
  else if -5 < point ∧ point ≤ 16 then
    if 0 ≤ d.exponent then d.positional ++ ['.', '0'] else d.positional
  else
    let power := point - 1
    let mantissa := match ds with
      | [] => []
      | [c] => [c]
      | c :: r => c :: '.' :: r
    mantissa ++ ['e', if power < 0 then '-' else '+'] ++ Binary64.digitsOf power.natAbs

/-- A double in JSON; one that is not finite is null. -/
def doubleChars (x : Binary64) : List Char :=
  if x.isFinite then
    let body := decimalChars (Binary64.shortest .toEven x)
    if x.negative then '-' :: body else body
  else ['n', 'u', 'l', 'l']

/-- A whole number. -/
def intChars (i : Int) : List Char :=
  if i < 0 then '-' :: Binary64.digitsOf i.natAbs else Binary64.digitsOf i.natAbs

def Number.chars : Number → List Char
  | .int i => intChars i
  | .double x => doubleChars x

def boolChars (b : Bool) : List Char :=
  if b then ['t', 'r', 'u', 'e'] else ['f', 'a', 'l', 's', 'e']

/-! ## Without blanks -/

mutual

/-- The characters of a value without blanks. -/
def compactChars : Json → List Char
  | .null => ['n', 'u', 'l', 'l']
  | .bool b => boolChars b
  | .num n => n.chars
  | .str s => quotedChars s
  | .arr [] => ['[', ']']
  | .arr (x :: r) => '[' :: (compactChars x ++ compactItems r)
  | .obj [] => ['{', '}']
  | .obj ((k, x) :: r) => '{' :: (quotedChars k ++ ':' :: (compactChars x ++ compactMembers r))
termination_by structural x => x

/-- The items after the first, and the closing bracket. -/
def compactItems : List Json → List Char
  | [] => [']']
  | x :: r => ',' :: (compactChars x ++ compactItems r)
termination_by structural x => x

/-- The members after the first, and the closing brace. -/
def compactMembers : List (String × Json) → List Char
  | [] => ['}']
  | (k, x) :: r => ',' :: (quotedChars k ++ ':' :: (compactChars x ++ compactMembers r))
termination_by structural x => x

end

/-- The text of a value without blanks. -/
def compact (j : Json) : String := String.ofList j.compactChars

/-! ## One item a line -/

/-- A new line at a level. -/
def newline (level : Nat) : List Char := '\n' :: List.replicate (2 * level) ' '

mutual

/-- The characters of a value at a level, one item a line. -/
def prettyChars (level : Nat) : Json → List Char
  | .null => ['n', 'u', 'l', 'l']
  | .bool b => boolChars b
  | .num n => n.chars
  | .str s => quotedChars s
  | .arr [] => ['[', ']']
  | .arr (x :: r) =>
    '[' :: (newline (level + 1) ++ (prettyChars (level + 1) x ++ prettyItems level r))
  | .obj [] => ['{', '}']
  | .obj ((k, x) :: r) =>
    '{' :: (newline (level + 1) ++ (quotedChars k ++ ':' :: ' ' ::
      (prettyChars (level + 1) x ++ prettyMembers level r)))
termination_by structural x => x

/-- The items after the first of a list at a level, and the closing bracket. -/
def prettyItems (level : Nat) : List Json → List Char
  | [] => newline level ++ [']']
  | x :: r =>
    ',' :: (newline (level + 1) ++ (prettyChars (level + 1) x ++ prettyItems level r))
termination_by structural x => x

/-- The members after the first of an object at a level, and the closing brace. -/
def prettyMembers (level : Nat) : List (String × Json) → List Char
  | [] => newline level ++ ['}']
  | (k, x) :: r =>
    ',' :: (newline (level + 1) ++ (quotedChars k ++ ':' :: ' ' ::
      (prettyChars (level + 1) x ++ prettyMembers level r)))
termination_by structural x => x

end

/-- The text of a value with one item a line. -/
def pretty (j : Json) : String := String.ofList (j.prettyChars 0)

end BudgetRules.Json
