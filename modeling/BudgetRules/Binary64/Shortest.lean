import BudgetRules.Binary64

/-!
# The shortest decimal that reads back

Of the decimals that round to a finite double `m * 2 ^ q`, `shortest` takes one with the
fewest digits, and of those the nearest to the double.  All decimals with `n` digits of a
given size stand on one grid; if the grid meets the interval of numbers that round to the
double, one of the double's two neighbours on that grid lies in the interval, so two
candidates a grid are enough.

The printers of the library differ in the layout of the digits and in the side a tie goes
to, and in nothing else.
-/

namespace BudgetRules.Binary64

/-- `digits * 10 ^ exponent`. -/
structure Decimal where
  digits : Nat
  exponent : Int
deriving DecidableEq

/-- How many decimal digits a number has; 0 has none. -/
def digitCount (n : Nat) : Nat :=
  if h : n = 0 then 0 else digitCount (n / 10) + 1
decreasing_by omega

/-- A tie between two shortest decimals goes to the even digits or to the larger ones. -/
inductive TieRule
  | toEven
  | up
deriving DecidableEq

/-- The numbers that round to a double, over one denominator: `low ≤ value ≤ high`, the ends
included exactly if `closed`. -/
structure Interval where
  low : Nat
  value : Nat
  high : Nat
  den : Nat
  closed : Bool

/-- The interval of a finite double that is not zero. -/
def interval (x : Binary64) : Interval :=
  let (m, q) := x.parts
  let below := if m = exponentBit ∧ q ≠ -1074 then 1 else 2
  let up := 1 <<< (q - 2).toNat
  { low := (4 * m - below) * up
    value := 4 * m * up
    high := (4 * m + 2) * up
    den := 1 <<< (2 - q).toNat
    closed := m % 2 == 0 }

namespace Interval

/-- `c * 10 ^ k` and the given bound of the interval, both as whole numbers of one unit. -/
def onGrid (i : Interval) (c : Nat) (k : Int) (bound : Nat) : Nat × Nat :=
  (c * Nat.pow 10 k.toNat * i.den, bound * Nat.pow 10 (-k).toNat)

def holds (i : Interval) (k : Int) (c : Nat) : Bool :=
  let (c₁, l) := i.onGrid c k i.low
  let (c₂, h) := i.onGrid c k i.high
  if i.closed then decide (l ≤ c₁ ∧ c₂ ≤ h) else decide (l < c₁ ∧ c₂ < h)

/-- Is the grid point `c` below the value nearer to it than `c + 1` above it?  A tie is settled by
the rule. -/
def nearerBelow (i : Interval) (tie : TieRule) (k : Int) (c : Nat) : Bool :=
  let (c₁, v) := i.onGrid c k i.value
  let (c₂, _) := i.onGrid (c + 1) k i.value
  let below := v - c₁
  let above := c₂ - v
  decide (below < above) ||
    (decide (below = above) && match tie with
      | .toEven => c % 2 == 0
      | .up => false)

/-- The best of the value's two neighbours on the grid `10 ^ k`, if one lies in the interval. -/
def onGrid? (i : Interval) (tie : TieRule) (k : Int) : Option Decimal :=
  let c := i.value * Nat.pow 10 (-k).toNat / (Nat.pow 10 k.toNat * i.den)
  match i.holds k c, i.holds k (c + 1) with
  | true, true => some ⟨if i.nearerBelow tie k c then c else c + 1, k⟩
  | true, false => some ⟨c, k⟩
  | false, true => some ⟨c + 1, k⟩
  | false, false => none

/-- The exponent of the value's first decimal digit. -/
def leading (i : Interval) : Int :=
  if i.den ≤ i.value then (digitCount (i.value / i.den) : Int) - 1
  else -(digitCount ((i.den + i.value - 1) / i.value - 1) : Int)

end Interval

/-- Trailing zeros moved from the digits into the exponent; the fuel bounds their number. -/
def Decimal.trim : Nat → Decimal → Decimal
  | 0, d => d
  | fuel + 1, d =>
    if d.digits ≠ 0 ∧ d.digits % 10 = 0 then trim fuel ⟨d.digits / 10, d.exponent + 1⟩ else d

/-- The shortest decimal of a finite double; 0 for both zeros.  Seventeen digits always
suffice. -/
def shortest (tie : TieRule) (x : Binary64) : Decimal :=
  if x.magnitude = 0 then ⟨0, 0⟩
  else
    let i := x.interval
    let top := i.leading
    let found := (List.range 17).findSome? fun (n : Nat) => i.onGrid? tie (top - n)
    (found.getD ⟨0, 0⟩).trim 20

/-! ## Layouts -/

/-- The digits of a number in base ten. -/
def digitsOf (n : Nat) : List Char := Nat.toDigits 10 n

/-- `digits * 10 ^ exponent` written out in full, without an exponent. -/
def Decimal.positional (d : Decimal) : List Char :=
  let ds := digitsOf d.digits
  let point : Int := ds.length + d.exponent
  if 0 ≤ d.exponent then ds ++ List.replicate d.exponent.toNat '0'
  else if point ≤ 0 then '0' :: '.' :: (List.replicate (-point).toNat '0' ++ ds)
  else ds.take point.toNat ++ '.' :: ds.drop point.toNat

/-- The text of a double in messages and conditions: shortest digits, never an exponent. -/
def toText (x : Binary64) : String :=
  if x.isNaN then "NaN"
  else
    let body := if x.isInfinite then ['i', 'n', 'f'] else (shortest .up x).positional
    String.ofList (if x.negative then '-' :: body else body)

end BudgetRules.Binary64
