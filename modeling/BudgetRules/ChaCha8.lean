import BudgetRules.Bytes

/-!
# A stream of bytes from a seed

The key stream of ChaCha with eight rounds, a counter of 64 bits from 0 on and no nonce.  The key is
spun out of a seed of 64 bits.
-/

namespace BudgetRules.ChaCha8

open Bytes

/-! ## Blocks -/

/-- The quarter round on four words of the state. -/
def quarterRound (s : Array UInt32) : Nat × Nat × Nat × Nat → Array UInt32
  | (a, b, c, d) =>
    let va := s.getD a 0 + s.getD b 0
    let vd := rotateLeft (s.getD d 0 ^^^ va) 16
    let vc := s.getD c 0 + vd
    let vb := rotateLeft (s.getD b 0 ^^^ vc) 12
    let va := va + vb
    let vd := rotateLeft (vd ^^^ va) 8
    let vc := vc + vd
    let vb := rotateLeft (vb ^^^ vc) 7
    (((s.setIfInBounds a va).setIfInBounds b vb).setIfInBounds c vc).setIfInBounds d vd

/-- The places that two rounds work on: the columns, then the diagonals. -/
def places : List (Nat × Nat × Nat × Nat) :=
  [(0, 4, 8, 12), (1, 5, 9, 13), (2, 6, 10, 14), (3, 7, 11, 15),
    (0, 5, 10, 15), (1, 6, 11, 12), (2, 7, 8, 13), (3, 4, 9, 14)]

def doubleRounds : Nat → Array UInt32 → Array UInt32
  | 0, s => s
  | n + 1, s => doubleRounds n (places.foldl quarterRound s)

/-- The 64 bytes of a block of the stream. -/
def block (key : List UInt32) (counter : Nat) : List UInt8 :=
  let start := [0x61707865, 0x3320646e, 0x79622d32, 0x6b206574] ++ key ++
    [UInt32.ofNat counter, UInt32.ofNat (counter / UInt32.size), 0, 0]
  ofWords (List.zipWith (· + ·) start (doubleRounds 4 start.toArray).toList)

/-! ## Key -/

/-- The next state of the generator that spins out the key, and the word it gives. -/
def spin (state : UInt64) : UInt64 × UInt32 :=
  let state := state * 6364136223846793005 + 11634580027462260723
  let x := (((state >>> 18) ^^^ state) >>> 27).toUInt32
  let turn := (state >>> 59).toUInt32
  (state, if turn = 0 then x else rotateRight x turn)

/-- A number of words of the key. -/
def keyWords : Nat → UInt64 → List UInt32
  | 0, _ => []
  | n + 1, state =>
    let (state, w) := spin state
    w :: keyWords n state

/-- The `n`th sixteen bytes of the stream of a seed. -/
def sixteen (seed : UInt64) (n : Nat) : List UInt8 :=
  ((block (keyWords 8 seed) (n / 4)).drop (16 * (n % 4))).take 16

end BudgetRules.ChaCha8
