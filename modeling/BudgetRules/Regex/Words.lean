import BudgetRules.Regex.Shape

/-!
# Expressions that are a few words

An expression without conditions and groups that stands for a few short words is found by looking for the
words, so the size of its automata does not matter.  That makes a difference only where a part of the
expression can match nothing: it adds no word, however large its automata would be.  A choice between very
many literals is looked for in the same way.

The words of an expression are followed only as long as there are few of them and none is long.
-/

namespace BudgetRules.Regex

open Unicode

/-- Words by their bytes, the preferred ones first. -/
abbrev Words := List (List Nat)

namespace Words

/-- The greatest number of words. -/
def countLimit : Nat := 250

/-- The greatest number of bytes of a word. -/
def lengthLimit : Nat := 100

/-- The greatest number of characters of a set, and the greatest number of repetitions. -/
def spreadLimit : Nat := 10

/-! ## Putting words together -/

/-- Of equal words that follow each other, only one. -/
def withoutRepeats : Words → Words
  | v :: w :: l => if v = w then withoutRepeats (w :: l) else v :: withoutRepeats (w :: l)
  | l => l

/-- One of some words and then one of others. -/
def cross? (a b : Words) : Option Words :=
  let l := a.flatMap fun v => b.map (v ++ ·)
  if countLimit < a.length * b.length || l.any (lengthLimit < ·.length) then none
  else some (withoutRepeats l)

/-- One of some words or one of others.  Only short words may be checked for equal ones first. -/
def union? (a b : Words) : Option Words :=
  let l := withoutRepeats (a ++ b)
  if a.length + b.length ≤ countLimit then some l
  else if (a ++ b).any (4 < ·.length) then none
  else if countLimit < (withoutRepeats a).length + (withoutRepeats b).length then none
  else some l

/-- A number of words in a row, behind some others. -/
def power? (l : Words) : Nat → Words → Option Words
  | 0, before => some before
  | n + 1, before => if before.isEmpty then some [] else (cross? before l).bind (power? l n)

/-- Words that more might follow; there are none unless there is no word. -/
def open? (l : Words) : Option Words := if l.isEmpty then some [] else none

/-! ## Looking for words -/

/-- The words that do not begin with a word in front of them. -/
def withoutExtensions (l : Words) : Words :=
  (l.foldl (fun kept w => if kept.any (·.isPrefixOf w) then kept else w :: kept) []).reverse

/-- What two words both begin with. -/
def commonStart : List Nat → List Nat → List Nat
  | a :: v, b :: w => if a = b then a :: commonStart v w else []
  | _, _ => []

/-- What all words begin with. -/
def start : Words → List Nat
  | [] => []
  | w :: l => l.foldl commonStart w

/-- The ASCII characters that are seen often. -/
def frequent : List Char := "\n\r (),-./0129:_abcdefghilmnoprstuvxy|".toList

/-- Is a byte seen seldom? -/
def isRare (b : Nat) : Bool := b < 128 && !frequent.contains (Char.ofNat b)

/-- Cuts words to their first bytes as long as there are too many: each step says how many bytes are left
of a word, and how many words are not too many.  Gives the last number of bytes. -/
def cut : List (Nat × Nat) → Nat → Words → Nat × Words
  | [], n, l => (n, l)
  | (bytes, few) :: steps, n, l =>
    if l.length ≤ few then (n, l) else cut steps bytes (withoutExtensions (l.map (·.take bytes)))

/-- Are words looked for as they are?  If they begin alike, their start is looked for; if there are many,
their first bytes are, unless these are too short to be of use. -/
def wanted (l : Words) : Bool :=
  let words := withoutExtensions l
  let common := start words
  if l.isEmpty || l.any List.isEmpty then false
  else if 1 < l.length && common.length ≤ 3 && common.head?.any isRare then
    words.all (·.length = 1)
  else if 4 < common.length || (1 < common.length && 16 < words.length) then words.length = 1
  else
    let (bytes, firsts) :=
      cut [(5, 10), (4, 10), (3, 64), (2, 64), (1, 10)] lengthLimit words
    firsts.any (·.length ≤ 2) || 64 < firsts.length || words.all (·.length ≤ bytes)

end Words

namespace Shape

mutual

/-- Is a shape free of conditions and groups? -/
def plain : Shape → Bool
  | .look _ => false
  | .group _ => false
  | .repeat s _ _ _ => s.plain
  | .sequence l => allPlain l
  | .choice l => allPlain l
  | _ => true
termination_by structural x => x

def allPlain : List Shape → Bool
  | [] => true
  | s :: l => s.plain && allPlain l
termination_by structural x => x

end

/-- The words of one character of a set. -/
def setWords? (r : Ranges) : Option Words :=
  if Words.spreadLimit < r.runs.foldl (fun n (a, b) => n + (b + 1 - a)) 0 then none
  else some (r.runs.flatMap fun (a, b) => (List.range' a (b + 1 - a)).map utf8)

mutual

/-- The words that a shape stands for. -/
def words? : Shape → Option Words
  | .empty => some [[]]
  | .literal cs =>
    let w := cs.flatMap utf8
    if Words.lengthLimit < w.length then none else some [w]
  | .set r _ => setWords? r
  | .look _ => none
  | .group _ => none
  | .repeat s min max greedy => do
    let l ← s.words?
    if min = 0 then
      let l ← if max = some 1 then some l else Words.open? l
      if greedy then Words.union? l [[]] else Words.union? [[]] l
    else
      let l ← Words.power? l (Nat.min min Words.spreadLimit) [[]]
      if max = some min ∧ min ≤ Words.spreadLimit then some l else Words.open? l
  | .sequence l => sequenceWords? [[]] l
  | .choice l => choiceWords? [] l
termination_by structural x => x

/-- The words of shapes in a row, behind some words. -/
def sequenceWords? (before : Words) : List Shape → Option Words
  | [] => some before
  | s :: l => do
    if before.isEmpty then return []
    sequenceWords? (← Words.cross? before (← s.words?)) l
termination_by structural x => x

/-- The words of a choice between shapes, behind those of the choices before. -/
def choiceWords? (before : Words) : List Shape → Option Words
  | [] => some before
  | s :: l => do choiceWords? (← Words.union? before (← s.words?)) l
termination_by structural x => x

end

/-- Is a shape a choice between so many literals that they are looked for as words? -/
def manyLiterals : Shape → Bool
  | .choice l => 3000 ≤ l.length && l.all fun
    | .literal _ => true
    | _ => false
  | _ => false

/-- Is a shape found by looking for words? -/
def isWords (s : Shape) : Bool := s.plain && (s.words?.any Words.wanted || s.manyLiterals)

end Shape

end BudgetRules.Regex
