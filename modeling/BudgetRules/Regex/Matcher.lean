import BudgetRules.Regex

/-!
# Searching a text

A set of positions is a number whose bit `i` says whether position `i` is in the set.  For a given
text an expression becomes a `Plan`, in which each set of characters and each condition is the set
of positions where it holds, and `Plan.ends` takes the set of positions where a match may begin to the
set of those where it may end.  Nothing is tried twice, so no expression is slow on any text.
-/

namespace BudgetRules.Regex

/-- An expression prepared for a text. -/
inductive Plan
  | empty
  /-- from each of these positions to the next -/
  | step (here : Nat)
  /-- stay at these positions -/
  | check (here : Nat)
  | cat (p q : Plan)
  | alt (p q : Plan)
  | repeat (p : Plan) (min : Nat) (max : Option Nat)

/-- The positions, from `i` on, of the characters that pass a test. -/
def charsWhere (p : Nat → Bool) (i : Nat) : List Char → Nat
  | [] => 0
  | c :: cs => (if p c.toNat then 1 <<< i else 0) ||| charsWhere p (i + 1) cs

/-- The positions, from `i` on, where a condition holds. -/
def looksWhere (l : Look) (i : Nat) (before : Option Char) : List Char → Nat
  | [] => if l.holds before none then 1 <<< i else 0
  | c :: cs =>
    (if l.holds before (some c) then 1 <<< i else 0) ||| looksWhere l (i + 1) (some c) cs

/-- The plan of an expression for a text. -/
def plan (text : List Char) : Regex → Plan
  | .empty => .empty
  | .set s _ => .step (charsWhere s.contains 0 text)
  | .look l => .check (looksWhere l 0 none text)
  | .cat r s => .cat (plan text r) (plan text s)
  | .alt r s => .alt (plan text r) (plan text s)
  | .repeat r min max _ => .repeat (plan text r) min max
  | .group r => plan text r

/-- `f` applied `n` times; it stops early where nothing changes any more. -/
def times (f : Nat → Nat) : Nat → Nat → Nat
  | 0, m => m
  | n + 1, m =>
    let next := f m
    if next = m then m else times f n next

/-- The positions reached from those of `new` by at most `n` steps, with those of `acc`; only positions
not reached before are gone on from. -/
def spread (f : Nat → Nat) : Nat → Nat → Nat → Nat
  | 0, acc, _ => acc
  | n + 1, acc, new =>
    let next := f new
    let fresh := next ^^^ (next &&& acc)
    if fresh = 0 then acc else spread f n (acc ||| fresh) fresh

/-- The positions where a match from one of the given positions may end; a text has `size`
positions. -/
def Plan.ends (size : Nat) : Plan → Nat → Nat
  | .empty, m => m
  | .step a, m => (m &&& a) <<< 1
  | .check a, m => m &&& a
  | .cat p q, m => q.ends size (p.ends size m)
  | .alt p q, m => p.ends size m ||| q.ends size m
  | .repeat p min max, m =>
    let start := times (p.ends size) min m
    match max with
    | none => spread (p.ends size) size start start
    | some max => spread (p.ends size) (Nat.min (max - min) size) start start

/-- Does the expression match some stretch of the text? -/
def search (r : Regex) (text : List Char) : Bool :=
  let size := text.length + 1
  (plan text r).ends size ((1 <<< size) - 1) != 0

end BudgetRules.Regex
