import BudgetRules.Binary64.Reader
import BudgetRules.Json
import BudgetRules.Json.Fault

/-!
# Numbers in JSON texts

A numeral is scanned into its digits and its value is then computed.  A whole number that fits 64
bits is exact.  Any other number is a double, found in steps that round: the leading digits that
fit 64 bits become a double, and that double is multiplied or divided by a power of ten.  So the
double need not be the one nearest to the number written.
-/

namespace BudgetRules.Json

open Binary64 (spanDigits)

/-- A numeral as written; `exponent` is the sign and the digits after the `e`. -/
structure Numeral where
  negative : Bool
  whole : List Char
  part : List Char
  exponent : Option (Bool × List Char)

namespace Numeral

/-! ## Scanning -/

/-- What is wrong where digits are missing. -/
def noDigits : List Char → Break
  | [] => ⟨.eofInValue, .invalidNumber⟩
  | _ :: _ => .both .invalidNumber

/-- The exponent of a numeral, if one is written. -/
def scanExponent (n : Numeral) : List Char → Except Break (Numeral × List Char)
  | [] => .ok (n, [])
  | c :: cs =>
    if c = 'e' ∨ c = 'E' then
      let (neg, r) := match cs with
        | '+' :: r => (false, r)
        | '-' :: r => (true, r)
        | r => (false, r)
      match spanDigits r with
      | ([], r) => .error (noDigits r)
      | (ds, r) => .ok ({ n with exponent := some (neg, ds) }, r)
    else .ok (n, c :: cs)

/-- The fraction and the exponent of a numeral. -/
def scanFraction (n : Numeral) : List Char → Except Break (Numeral × List Char)
  | '.' :: cs =>
    match spanDigits cs with
    | ([], r) => .error (noDigits r)
    | (ds, r) => scanExponent { n with part := ds } r
  | cs => scanExponent n cs

/-- A numeral after its sign: no digit follows a leading zero. -/
def scan (negative : Bool) (cs : List Char) : Except Break (Numeral × List Char) :=
  match spanDigits cs with
  | ([], r) => .error (noDigits r)
  | (['0'], r) => scanFraction ⟨negative, ['0'], [], none⟩ r
  | (ds, r) =>
    if ds.head? = some '0' then .error (.both .invalidNumber)
    else scanFraction ⟨negative, ds, [], none⟩ r

/-! ## Value -/

/-- The largest number of 64 bits. -/
def wordMax : Nat := UInt64.size - 1

/-- Reads digits as long as the number fits 64 bits; gives the number and the digits left. -/
def accumulate (acc : Nat) : List Char → Nat × List Char
  | [] => (acc, [])
  | c :: cs =>
    let next := 10 * acc + (c.toNat - 48)
    if next ≤ wordMax then accumulate next cs else (acc, c :: cs)

/-- A double times a power of ten, each step rounded.  The fuel bounds the divisions by the largest
power of ten, after two of which nothing is left. -/
def scale : Nat → Binary64 → Int → Except Fault Binary64
  | 0, f, _ => .ok f
  | fuel + 1, f, e =>
    if e.natAbs ≤ 308 then
      if 0 ≤ e then
        let g := f.mulSize (.ofNat (Nat.pow 10 e.toNat))
        if g.isInfinite then .error .numberOutOfRange else .ok g
      else .ok (f.divSize (.ofNat (Nat.pow 10 (-e).toNat)))
    else if f.magnitude = 0 then .ok f
    else if 0 ≤ e then .error .numberOutOfRange
    else scale fuel (f.divSize (.ofNat (Nat.pow 10 308))) (e + 308)

/-- The double of a number of 64 bits times a power of ten. -/
def ofParts (neg : Bool) (significand : Nat) (e : Int) : Except Fault Binary64 :=
  (scale 4 (.ofNat significand) e).map fun f => .ofMagnitude neg f.magnitude

/-- The largest exponent that is taken as it stands. -/
def exponentMax : Nat := 0x7fffffff

/-- The double of a numeral whose digits give `significand * 10 ^ e` before its exponent. -/
def withExponent (neg : Bool) (significand : Nat) (e : Int) :
    Option (Bool × List Char) → Except Fault Binary64
  | none => ofParts neg significand e
  | some (down, ds) =>
    let n := Binary64.digitsValue 0 ds
    if exponentMax < n then
      if significand ≠ 0 ∧ down = false then .error .numberOutOfRange
      else .ok (.ofMagnitude neg 0)
    else ofParts neg significand (if down then e - n else e + n)

/-- The value of a numeral. -/
def value (n : Numeral) : Except Fault Number :=
  let (w, beyond) := accumulate 0 n.whole
  if n.part = [] ∧ n.exponent = none then
    if beyond ≠ [] then (ofParts n.negative w beyond.length).map .double
    else if n.negative then
      if w = 0 ∨ UInt64.size / 2 < w then .ok (.double (.ofMagnitude true (Binary64.ofNat w).magnitude))
      else .ok (.int (-w))
    else .ok (.int w)
  else
    let (s, left) := accumulate w n.part
    let e : Int := beyond.length - (n.part.length - left.length : Nat)
    (withExponent n.negative s e n.exponent).map .double

end Numeral

end BudgetRules.Json
