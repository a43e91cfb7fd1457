import BudgetRules.Binary64

/-!
# Reading a number from text

An operand is an optional sign and then either `inf`, `infinity` or `nan` in any case, or
digits with an optional point and an optional exponent, at least one digit standing before
or after the point.  The result is the double nearest to the number written.
-/

namespace BudgetRules.Binary64

/-- The value of a run of digits, continued from `acc`. -/
def digitsValue (acc : Nat) (ds : List Char) : Nat :=
  ds.foldl (fun n c => 10 * n + (c.toNat - 48)) acc

/-- The double nearest to `digits * 10 ^ exponent`.  Sizes far outside the range of doubles are
settled by counting digits, so that no huge power is ever formed. -/
def ofDecimal (neg : Bool) (digits : Nat) (exponent : Int) : Binary64 :=
  if digits = 0 then ofMagnitude neg 0
  else
    let size : Int := (Nat.toDigits 10 digits).length + exponent
    if 400 < size then infinity neg
    else if size < -400 then ofMagnitude neg 0
    else nearest neg (digits * Nat.pow 10 exponent.toNat) (Nat.pow 10 (-exponent).toNat)

/-- A run of digits and what follows it. -/
def spanDigits (cs : List Char) : List Char × List Char := cs.span Char.isDigit

/-- An exponent, `e` or `E` with an optional sign and at least one digit, or nothing. -/
def exponentOf? : List Char → Option Int
  | [] => some 0
  | c :: cs =>
    if c = 'e' ∨ c = 'E' then
      let (neg, ds) := match cs with
        | '-' :: r => (true, r)
        | '+' :: r => (false, r)
        | r => (false, r)
      if ds ≠ [] ∧ ds.all Char.isDigit then
        let n : Int := digitsValue 0 ds
        some (if neg then -n else n)
      else none
    else none

/-- A number without its sign. -/
def unsigned? (neg : Bool) (cs : List Char) : Option Binary64 :=
  let word := String.ofList (cs.map Char.toLower)
  if word = "inf" ∨ word = "infinity" then some (infinity neg)
  else if word = "nan" then some nan
  else
    let (whole, r) := spanDigits cs
    let (part, r) := match r with
      | '.' :: r => spanDigits r
      | r => ([], r)
    if whole = [] ∧ part = [] then none
    else
      (exponentOf? r).map fun e =>
        ofDecimal neg (digitsValue 0 (whole ++ part)) (e - part.length)

/-- The double written in a text, or nothing if the text is not a number. -/
def ofText? (cs : List Char) : Option Binary64 :=
  match cs with
  | '-' :: r => unsigned? true r
  | '+' :: r => unsigned? false r
  | r => unsigned? false r

end BudgetRules.Binary64
