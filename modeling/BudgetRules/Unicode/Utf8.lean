/-!
# Characters as bytes

The bytes of characters in UTF-8, and those of whole runs of characters: a run is the union of
blocks, each of which takes any byte of one run first, any byte of another run then, and so on.
-/

namespace BudgetRules.Unicode

/-- The bytes of a character by its code point. -/
def utf8 (n : Nat) : List Nat := (String.utf8EncodeChar (Char.ofNat n)).map UInt8.toNat

/-- The number of bytes of a character by its code point. -/
def utf8Length (n : Nat) : Nat := (Char.ofNat n).utf8Size

/-- A run of bytes, by its first and its last. -/
abbrev ByteRun := Nat × Nat

/-- The characters of one, two, three and four bytes, without the surrogates. -/
def lengthRuns : List (Nat × Nat) :=
  [(0, 0x7f), (0x80, 0x7ff), (0x800, 0xd7ff), (0xe000, 0xffff), (0x10000, 0x10ffff)]

/-- The parts of a run in the areas of `lengthRuns`. -/
def splitLengths (r : Nat × Nat) : List (Nat × Nat) :=
  lengthRuns.filterMap fun (a, b) =>
    if max r.1 a ≤ min r.2 b then some (max r.1 a, min r.2 b) else none

/-- Cuts a run that leaves a block of the given size: what is in the first block if that is not whole, the
whole blocks, and what is in the last block if that is not whole. -/
def splitBlocks (size : Nat) : Nat × Nat → List (Nat × Nat)
  | (a, b) =>
    if a / size = b / size then [(a, b)]
    else
      let low := (a + size - 1) / size * size
      let high := (b + 1) / size * size
      (if a < low then [(a, low - 1)] else []) ++
        (if low < high then [(low, high - 1)] else []) ++
          (if high ≤ b then [(high, b)] else [])

/-- The blocks of a run of characters of one length. Characters of one byte are one block. -/
def blocks (r : Nat × Nat) : List (Nat × Nat) :=
  if r.2 ≤ 0x7f then [r]
  else ((splitBlocks 0x40 r).flatMap (splitBlocks 0x1000)).flatMap (splitBlocks 0x40000)

/-- The bytes of the characters of a run: sequences of runs of bytes, in ascending order. -/
def byteRuns (r : Nat × Nat) : List (List ByteRun) :=
  ((splitLengths r).flatMap blocks).map fun (a, b) => (utf8 a).zip (utf8 b)

end BudgetRules.Unicode
