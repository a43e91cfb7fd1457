/-!
# Trees of literals

A choice between literals is recognized by a tree: literals that begin alike share their beginning.
Where a literal ends the choices before it are preferred to those behind it, so the literals on both
sides of an end do not share anything further on.
-/

namespace BudgetRules.Regex

/-- The size of a part of an automaton: its states, and the links between them. -/
structure Extent where
  states : Nat
  links : Nat
deriving DecidableEq

def Extent.add (a b : Extent) : Extent := ⟨a.states + b.states, a.links + b.links⟩

def Extent.sum (l : List Extent) : Extent := l.foldl Extent.add ⟨0, 0⟩

namespace LiteralTree

/-- The rests of the words that begin with a letter. -/
def behind (b : Nat) (words : List (List Nat)) : List (List Nat) :=
  words.filterMap fun
    | c :: r => if c = b then some r else none
    | [] => none

/-- The letters that words begin with. -/
def firsts (words : List (List Nat)) : List Nat := (words.filterMap List.head?).eraseDups

/-- The words that go on from a place, cut at each that ends there.  As long as nothing goes on, all
ends count as one. -/
def segments (words : List (List Nat)) : List (List (List Nat)) :=
  match words with
  | [] :: r => [] :: (r.dropWhile List.isEmpty).splitOnP List.isEmpty
  | l => l.splitOnP List.isEmpty

/-- The state from which one segment goes on, if anything goes on in it: a link for each letter, which
counts twice unless it is the only one, and the link to the state. -/
def segmentExtent (letters : Nat) : Extent :=
  match letters with
  | 0 => ⟨0, 0⟩
  | 1 => ⟨1, 1⟩
  | n => ⟨1, 2 * n + 1⟩

/-- The tree below a place where not all words end: a fork with its segments, and a link to the end for
each word that ends between them.  The fuel bounds the length of the words. -/
def extent : Nat → List (List Nat) → Extent
  | 0, _ => ⟨0, 0⟩
  | fuel + 1, words =>
    let parts := segments words
    let below (part : List (List Nat)) (b : Nat) : Extent :=
      let rest := behind b part
      if rest.all List.isEmpty then ⟨0, 0⟩ else extent fuel rest
    .sum (⟨1, parts.length - 1⟩ :: parts.flatMap fun part =>
      segmentExtent (firsts part).length :: (firsts part).map (below part))

end LiteralTree

/-- The tree of some words, with the state where they end. -/
def literalTree (words : List (List Nat)) : Extent :=
  let longest := words.foldl (fun n w => max n w.length) 0
  (LiteralTree.extent (longest + 1) words).add ⟨1, 0⟩

end BudgetRules.Regex
