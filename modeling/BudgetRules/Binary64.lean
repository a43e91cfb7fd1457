/-!
# Doubles

An amount is a double, kept as its 64-bit pattern.  A pattern that is no NaN has a
`rank` on the number line, and comparison is comparison of ranks:

    x == y  ↔  neither is NaN and x.rank = y.rank
    x.lt y  ↔  neither is NaN and x.rank < y.rank

so both zeros are equal and a NaN differs even from itself.  `nearest num den` is the
double nearest to a fraction; a fraction half way between two doubles goes to the one
with the even pattern, and one beyond the largest double goes to infinity.
-/

namespace BudgetRules

/-- A double, as the 64 bits of its pattern: sign, eleven bits of exponent, 52 of fraction. -/
structure Binary64 where
  bits : UInt64
deriving DecidableEq

namespace Binary64

/-! ## Parts of a pattern -/

/-- The weight of the sign in a pattern. -/
def signBit : Nat := 0x8000000000000000

/-- The weight of the lowest bit of the exponent in a pattern, one more than the largest fraction. -/
def exponentBit : Nat := 0x10000000000000

/-- The magnitude of the infinities; larger ones are NaN. -/
def infiniteMagnitude : Nat := 2047 * exponentBit

def negative (x : Binary64) : Bool := decide (signBit ≤ x.bits.toNat)

/-- The pattern without its sign, as a number. -/
def magnitude (x : Binary64) : Nat := x.bits.toNat % signBit

def ofMagnitude (neg : Bool) (m : Nat) : Binary64 :=
  ⟨UInt64.ofNat (if neg then signBit + m else m)⟩

def isNaN (x : Binary64) : Bool := decide (infiniteMagnitude < x.magnitude)

def isInfinite (x : Binary64) : Bool := x.magnitude == infiniteMagnitude

def isFinite (x : Binary64) : Bool := decide (x.magnitude < infiniteMagnitude)

def zero : Binary64 := ofMagnitude false 0

def infinity (neg : Bool) : Binary64 := ofMagnitude neg infiniteMagnitude

def nan : Binary64 := ofMagnitude false (infiniteMagnitude + exponentBit / 2)

/-! ## Comparison -/

/-- The place on the number line, in steps from one double to the next; both zeros stand at 0. -/
def rank (x : Binary64) : Int :=
  if x.negative then -(x.magnitude : Int) else x.magnitude

instance : BEq Binary64 where
  beq x y := !x.isNaN && !y.isNaN && x.rank == y.rank

def lt (x y : Binary64) : Bool := !x.isNaN && !y.isNaN && decide (x.rank < y.rank)

/-- A double that is no NaN equals itself. -/
theorem beq_self {x : Binary64} (h : x.isNaN = false) : (x == x) = true := by
  show (!x.isNaN && !x.isNaN && x.rank == x.rank) = true
  simp [h]

/-! ## The value of a pattern -/

/-- The whole number `m` and the power `q` for which a finite double has the size `m * 2 ^ q`. -/
def parts (x : Binary64) : Nat × Int :=
  let field : Nat := x.magnitude / exponentBit
  let fraction : Nat := x.magnitude % exponentBit
  if field = 0 then (fraction, -1074) else (exponentBit + fraction, (field : Int) - 1075)

/-- The quotient rounded to the nearest whole number, a half going to the even neighbour. -/
def divNearestEven (num den : Nat) : Nat :=
  let q := num / den
  let r := num % den
  if den < 2 * r ∨ (2 * r = den ∧ q % 2 = 1) then q + 1 else q

/-- `num / den * 2 ^ (-e)` as a fraction. -/
def scaled (num den : Nat) (e : Int) : Nat × Nat :=
  (num <<< (-e).toNat, den <<< e.toNat)

/-- The magnitude of the double nearest to `num / den`. -/
def nearestMagnitude (num den : Nat) : Nat :=
  if num = 0 then 0
  else
    let low : Int := max ((num.log2 : Int) - den.log2 - 53) (-1074)
    let atLow := scaled num den low
    let e := if 2 * exponentBit * atLow.2 ≤ atLow.1 then low + 1 else low
    let atE := scaled num den e
    min ((e + 1074).toNat * exponentBit + divNearestEven atE.1 atE.2) infiniteMagnitude

/-- The double nearest to `num / den`, with the given sign. -/
def nearest (neg : Bool) (num den : Nat) : Binary64 :=
  ofMagnitude neg (nearestMagnitude num den)

def ofNat (n : Nat) : Binary64 := nearest false n 1

/-- The double nearest to a whole number. -/
def ofInt (i : Int) : Binary64 := nearest (decide (i < 0)) i.natAbs 1

/-- The product of two finite sizes, rounded; the sign is the first one's. -/
def mulSize (x y : Binary64) : Binary64 :=
  let a := x.parts
  let b := y.parts
  let e := a.2 + b.2
  nearest x.negative ((a.1 * b.1) <<< e.toNat) (1 <<< (-e).toNat)

/-- The quotient of two finite sizes, rounded; the sign is the first one's. -/
def divSize (x y : Binary64) : Binary64 :=
  let a := x.parts
  let b := y.parts
  let e := a.2 - b.2
  nearest x.negative (a.1 <<< e.toNat) (b.1 <<< (-e).toNat)

end Binary64

end BudgetRules
