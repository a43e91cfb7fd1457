/-!
# Numbers as bytes

Little-endian numbers of a fixed number of bytes, and words of four bytes.
-/

namespace BudgetRules.Bytes

/-- A number as `k` bytes, the lowest first; what does not fit is left out. -/
def littleEndian : Nat → Nat → List UInt8
  | 0, _ => []
  | k + 1, n => UInt8.ofNat (n % 256) :: littleEndian k (n / 256)

/-- The number of some bytes, the lowest first. -/
def toNat : List UInt8 → Nat
  | [] => 0
  | b :: r => b.toNat + 256 * toNat r

theorem length_littleEndian (k n : Nat) : (littleEndian k n).length = k := by
  induction k generalizing n with
  | zero => rfl
  | succ k ih => simp [littleEndian, ih]

/-- A number that fits is read back. -/
theorem toNat_littleEndian (k n : Nat) (h : n < Nat.pow 256 k) : toNat (littleEndian k n) = n := by
  induction k generalizing n with
  | zero => simp at h; simp [littleEndian, toNat, h]
  | succ k ih =>
    have hdiv : n / 256 < Nat.pow 256 k := by
      apply Nat.div_lt_of_lt_mul
      rw [Nat.mul_comm]; exact h
    simp only [littleEndian, toNat, ih _ hdiv]
    have : (UInt8.ofNat (n % 256)).toNat = n % 256 := by simp
    omega

/-- The word of the first four bytes, missing ones counted as zero. -/
def word (bs : List UInt8) : UInt32 := UInt32.ofNat (toNat (bs.take 4))

/-- The first `k` words of some bytes. -/
def words : Nat → List UInt8 → List UInt32
  | 0, _ => []
  | k + 1, bs => word bs :: words k (bs.drop 4)

/-- The bytes of some words. -/
def ofWords (ws : List UInt32) : List UInt8 := ws.flatMap fun w => littleEndian 4 w.toNat

/-- A word turned to the right by some bits. -/
def rotateRight (w : UInt32) (k : UInt32) : UInt32 := (w >>> k) ||| (w <<< (32 - k))

/-- A word turned to the left by some bits. -/
def rotateLeft (w : UInt32) (k : UInt32) : UInt32 := (w <<< k) ||| (w >>> (32 - k))

/-- A digit of base sixteen, in lower case. -/
def hexDigit (n : Nat) : Char := if n < 10 then Char.ofNat (48 + n) else Char.ofNat (87 + n)

/-- Two digits a byte. -/
def hex (bs : List UInt8) : List Char :=
  bs.flatMap fun b => [hexDigit (b.toNat / 16), hexDigit (b.toNat % 16)]

end BudgetRules.Bytes
