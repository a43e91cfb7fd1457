import BudgetRules.Bytes

/-!
# BLAKE3

The hash of a list of bytes.  The bytes are cut into chunks of 1024, each chunk is compressed block by
block, and the chunks' results are joined in pairs in a tree whose left side is always a full one.
-/

namespace BudgetRules.Blake3

open Bytes

/-! ## Compression -/

def initial : List UInt32 :=
  [0x6a09e667, 0xbb67ae85, 0x3c6ef372, 0xa54ff53a, 0x510e527f, 0x9b05688c, 0x1f83d9ab,
    0x5be0cd19]

/-- The order in which a round takes the words that the one before it had. -/
def permutation : List Nat := [2, 6, 3, 10, 7, 0, 4, 13, 1, 11, 12, 5, 9, 14, 15, 8]

def chunkStart : UInt32 := 1

def chunkEnd : UInt32 := 2

def parent : UInt32 := 4

def root : UInt32 := 8

/-- Mixes two words of the message into four words of the state. -/
def mix (s : Array UInt32) (a b c d : Nat) (x y : UInt32) : Array UInt32 :=
  let va := s.getD a 0 + s.getD b 0 + x
  let vd := rotateRight (s.getD d 0 ^^^ va) 16
  let vc := s.getD c 0 + vd
  let vb := rotateRight (s.getD b 0 ^^^ vc) 12
  let va := va + vb + y
  let vd := rotateRight (vd ^^^ va) 8
  let vc := vc + vd
  let vb := rotateRight (vb ^^^ vc) 7
  (((s.setIfInBounds a va).setIfInBounds b vb).setIfInBounds c vc).setIfInBounds d vd

/-- The places that the eight mixings of a round work on: the columns, then the diagonals. -/
def places : List (Nat × Nat × Nat × Nat) :=
  [(0, 4, 8, 12), (1, 5, 9, 13), (2, 6, 10, 14), (3, 7, 11, 15),
    (0, 5, 10, 15), (1, 6, 11, 12), (2, 7, 8, 13), (3, 4, 9, 14)]

/-- One round with the given message. -/
def round (s m : Array UInt32) : Array UInt32 :=
  (places.zipIdx).foldl
    (fun s ((a, b, c, d), i) => mix s a b c d (m.getD (2 * i) 0) (m.getD (2 * i + 1) 0)) s

/-- A number of rounds, the message permuted after each. -/
def rounds : Nat → Array UInt32 → Array UInt32 → Array UInt32
  | 0, s, _ => s
  | n + 1, s, m => rounds n (round s m) (permutation.map fun i => m.getD i 0).toArray

/-- What is compressed: the value so far, a block with its length, a counter and flags. -/
structure Input where
  chain : List UInt32
  block : List UInt8
  counter : Nat
  flags : UInt32

/-- The first eight words of the compression of a block. -/
def Input.compress (i : Input) : List UInt32 :=
  let state := i.chain ++ initial.take 4 ++
    [UInt32.ofNat i.counter, UInt32.ofNat (i.counter / UInt32.size), UInt32.ofNat i.block.length,
      i.flags]
  let s := rounds 7 state.toArray (words 16 i.block).toArray
  (List.range 8).map fun k => s.getD k 0 ^^^ s.getD (k + 8) 0

/-! ## Chunks and the tree -/

/-- Bytes cut into pieces of a length; no bytes are one empty piece.  The fuel bounds the number of
pieces. -/
def cut (size : Nat) : Nat → List UInt8 → List (List UInt8)
  | 0, bs => [bs]
  | fuel + 1, bs =>
    if bs.length ≤ size then [bs] else bs.take size :: cut size fuel (bs.drop size)

/-- The last compression of a chunk whose blocks are given, still to be done. -/
def chunkInput (counter : Nat) (chain : List UInt32) (flags : UInt32) :
    List (List UInt8) → Input
  | [] => ⟨chain, [], counter, flags ||| chunkEnd⟩
  | [b] => ⟨chain, b, counter, flags ||| chunkEnd⟩
  | b :: r => chunkInput counter (Input.compress ⟨chain, b, counter, flags⟩) 0 r

/-- The largest power of two below a number, from `p` on. -/
def powerBelow (n : Nat) : Nat → Nat → Nat
  | 0, p => p
  | fuel + 1, p => if 2 * p < n then powerBelow n fuel (2 * p) else p

/-- The last compression of some chunks, the first with the number `counter`, still to be done.  The fuel
bounds the height of the tree. -/
def treeInput : Nat → Nat → List (List UInt8) → Input
  | 0, counter, chunks =>
    chunkInput counter initial chunkStart (cut 64 16 (chunks.headD []))
  | fuel + 1, counter, chunks =>
    match chunks with
    | [] => chunkInput counter initial chunkStart [[]]
    | [c] => chunkInput counter initial chunkStart (cut 64 16 c)
    | chunks =>
      let left := powerBelow chunks.length chunks.length 1
      let l := (treeInput fuel counter (chunks.take left)).compress
      let r := (treeInput fuel (counter + left) (chunks.drop left)).compress
      ⟨initial, ofWords (l ++ r), 0, parent⟩

/-- The 32 bytes of the hash of some bytes. -/
def hash (bs : List UInt8) : List UInt8 :=
  let chunks := cut 1024 bs.length bs
  let last := treeInput (chunks.length + 1) 0 chunks
  ofWords ({ last with flags := last.flags ||| root }).compress

end BudgetRules.Blake3
