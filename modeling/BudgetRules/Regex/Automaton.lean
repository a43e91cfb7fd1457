import BudgetRules.Regex.LiteralTree
import BudgetRules.Regex.Words
import Std.Data.HashMap

/-!
# How large the automata of an expression are

An expression stands for two automata over bytes: one reads texts forward, the other one backward.  A
repetition with bounds stands for so many copies of what it repeats, so a short pattern can ask for huge
automata.  Here they are built as far as their size goes, and `Regex.fits` says whether both stay within
`sizeLimit` bytes.

A state takes 32 bytes and a link four; a link for a run of bytes, where a state has several of
them, counts as two links.  A state that only reads one run of bytes keeps its link in itself.
-/

namespace BudgetRules.Regex

open Unicode

/-- Ten mebibytes. -/
def sizeLimit : Nat := 10 * 1024 * 1024

/-- The direction in which an automaton reads. -/
inductive Direction
  | forward
  | backward
deriving DecidableEq

/-- The bytes that an automaton takes. -/
def Extent.bytes (e : Extent) : Nat := 32 * e.states + 4 * e.links

/-- An automaton with more added, if it stays small enough. -/
def Extent.grow? (e : Extent) (states links : Nat) : Option Extent :=
  let e := e.add ⟨states, links⟩
  if sizeLimit < e.bytes then none else some e

/-! ## Parts -/

/-- A part of an automaton, built at the end of what there is already.  It leaves one end open; the second
result says whether that is a fork, so that whatever follows needs a link. -/
abbrev Part := Extent → Option (Extent × Bool)

namespace Part

/-- What follows an open end. -/
def connect (fork : Bool) (e : Extent) : Option Extent := if fork then e.grow? 0 1 else some e

/-- Some states in a row. -/
def states (n : Nat) : Part := fun e => (e.grow? n 0).map (·, false)

/-- One part and then another one. -/
def andThen (p q : Part) : Part := fun e => do
  let (e, fork) ← p e
  let (e, fork') ← q e
  return (← connect fork e, fork')

/-- Parts in a row. -/
def chain : List Part → Part
  | [] => states 1
  | p :: l => l.foldl andThen p

/-- More copies of a part behind an open end. -/
def copiesAfter (p : Part) : Nat → Bool → Part
  | 0, fork, e => some (e, fork)
  | n + 1, fork, e => do
    let (e, fork') ← p e
    copiesAfter p n fork' (← connect fork e)

/-- A number of copies in a row. -/
def copies (p : Part) : Nat → Part
  | 0 => states 1
  | n + 1 => fun e => do
    let (e, fork) ← p e
    copiesAfter p n fork e

/-- Copies behind an open end, each of which may be the first to be left out: then a link leads to the
end of all. -/
def optionalAfter (p : Part) : Nat → Bool → Part
  | 0, fork, e => do return (← connect fork e, false)
  | n + 1, fork, e => do
    let (e, fork') ← p (← e.grow? 1 0)
    optionalAfter p n fork' (← (← connect fork e).grow? 0 2)

/-- At least `min` copies and at most `max`. -/
def between (p : Part) (min max : Nat) : Part := fun e => do
  let (e, fork) ← p.copies min e
  optionalAfter p (max - min) fork (← e.grow? 1 0)

/-- A copy or none. -/
def optional (p : Part) : Part := fun e => do
  let (e, fork) ← p (← e.grow? 1 0)
  return (← connect fork (← e.grow? 1 2), false)

/-- At least one copy: a fork behind it leads back to it. -/
def many (p : Part) : Part := fun e => do
  let (e, fork) ← p e
  return (← connect fork (← e.grow? 1 1), true)

/-- Any number of copies.  If a copy always reads something, a fork in front of it is enough; if not, the
copies are optional. -/
def any (p : Part) (reads : Bool) : Part := fun e =>
  if reads then do
    let (e, fork) ← p (← e.grow? 1 0)
    return (← connect fork (← e.grow? 0 1), true)
  else do
    let (e, fork) ← p e
    return (← connect fork (← e.grow? 3 4), false)

/-- At least `min` copies. -/
def atLeast (p : Part) (reads : Bool) : Nat → Part
  | 0 => p.any reads
  | 1 => p.many
  | n + 2 => (p.copies (n + 1)).andThen p.many

/-- The rest of a choice behind its fork and its end. -/
def choiceAfter : List Part → Extent → Option Extent
  | [], e => some e
  | p :: l, e => do
    let (e, fork) ← p e
    choiceAfter l (← connect fork (← e.grow? 0 1))

/-- A choice; its fork and its end stand behind the first two parts. -/
def choice : List Part → Part
  | [] => states 1
  | [p] => p
  | p :: q :: l => fun e => do
    let (e, fork) ← p e
    let (e, fork') ← q e
    let e ← connect fork' (← connect fork (← e.grow? 2 2))
    return (← choiceAfter l e, false)

end Part

/-! ## Sets -/

/-- States that may be shared, by what they do.  A register has a fixed number of places, and a state that
takes the place of another one puts it out. -/
structure Register where
  size : UInt64
  states : Std.HashMap UInt64 (List Nat × Nat)

namespace Register

/-- The place of a state in a register: a hash of the numbers that say what it does. -/
def place (r : Register) (key : List Nat) : UInt64 :=
  key.foldl (fun h n => (h ^^^ UInt64.ofNat n) * 1099511628211) 14695981039346656037 % r.size

/-- The state with a key, or a new one that is entered.  `links` is what a new one takes. -/
def state? (r : Register) (key : List Nat) (links : Nat) (e : Extent) :
    Option (Nat × Register × Extent) :=
  let place := r.place key
  match r.states[place]? with
  | some (k, n) => if k = key then some (n, r, e) else new place
  | none => new place
where
  /-- A new state. -/
  new (place : UInt64) : Option (Nat × Register × Extent) := do
    let e' ← e.grow? 1 links
    return (e.states, { r with states := r.states.insert place (key, e.states) }, e')

end Register

/-- The first state of an automaton for sequences of byte runs that read forward and go on to `target`.
Sequences that begin alike share their beginning, and states that do the same are shared.  The number
bounds the length of the sequences. -/
def forwardState? (target : Nat) :
    Nat → List (List ByteRun) → Register → Extent → Option (Nat × Register × Extent)
  | 0, _, r, e => some (target, r, e)
  | fuel + 1, seqs, r, e => do
    let groups := seqs.splitBy fun s t => s.head? == t.head?
    let (key, r, e) ← groups.foldlM (fun (key, r, e) group => do
      match group with
      | ((a, b) :: rest) :: _ =>
        let (next, r, e) ←
          if rest.isEmpty then some (target, r, e)
          else forwardState? target fuel (group.map List.tail) r e
        return (next :: b :: a :: key, r, e)
      | _ => return (key, r, e)) ([], r, e)
    r.state? key.reverse (2 * groups.length) e

/-- The states for sequences of byte runs that read backward, each a row of states that comes from
`target`; the ends of the rows are shared. -/
def backwardStates? (target : Nat) (seqs : List (List ByteRun)) (r : Register) (e : Extent) :
    Option (Register × Extent) :=
  seqs.foldlM (fun (r, e) seq => do
    let (_, r, e) ← seq.foldlM (fun (next, r, e) (a, b) => Register.state? r [next, a, b] 0 e)
      (target, r, e)
    return (r, ← e.grow? 0 1)) (r, e)

/-- The part that reads one of some sequences of byte runs. -/
def sequencesPart (d : Direction) (seqs : List (List ByteRun)) : Part := fun e =>
  match d with
  | .forward => do
    let (_, _, e') ← forwardState? e.states 4 seqs ⟨10000, ∅⟩ (← e.grow? 1 0)
    return (e', false)
  | .backward => do
    let (_, e') ← backwardStates? (e.states + 1) seqs ⟨1000, ∅⟩ (← e.grow? 2 0)
    return (e', false)

/-- The part that reads one character of a set. -/
def setPart (d : Direction) (chars : Ranges) : Part :=
  if chars.runs.all fun (_, b) => b < 128 then
    fun e => (e.grow? 2 (2 * chars.runs.length)).map (·, false)
  else sequencesPart d (chars.runs.flatMap byteRuns)

/-! ## Shapes -/

namespace Shape

/-- The things to read in the order in which they are read. -/
def inOrder (d : Direction) (l : List α) : List α :=
  match d with
  | .forward => l
  | .backward => l.reverse

/-- The characters of choices that are literals. -/
def literals? (l : List Shape) : Option (List (List Nat)) :=
  l.mapM fun
    | .literal cs => some cs
    | _ => none

mutual

/-- The part of an automaton for a shape. -/
def part (d : Direction) : Shape → Part
  | .empty => .states 1
  | .literal cs => .states (cs.foldl (fun n c => n + utf8Length c) 0)
  | .set r _ => setPart d r
  | .look _ => .states 1
  | .repeat s min max _ =>
    let p := s.part d
    match max with
    | none => p.atLeast (s.minLength.any (0 < ·)) min
    | some max =>
      if min = 0 ∧ max = 1 then p.optional
      else if min = max then p.copies min
      else p.between min max
  | .group s =>
    match d with
    | .forward => .chain [.states 1, s.part d, .states 1]
    | .backward => s.part d
  | .sequence l => .chain (inOrder d (parts d l))
  | .choice l =>
    match literals? l with
    | some words =>
      let tree := literalTree (words.map fun w => inOrder d (w.flatMap utf8))
      fun e => (e.grow? tree.states tree.links).map (·, false)
    | none => .choice (parts d l)
termination_by structural x => x

def parts (d : Direction) : List Shape → List Part
  | [] => []
  | s :: l => s.part d :: parts d l
termination_by structural x => x

end

/-- Does something that stands in a sequence hold at the end from which it is read?  Only what stands in
front of the first character that is read counts. -/
def holdsFirst (l : List (Bool × Bool)) : Bool :=
  (l.takeWhile (·.2)).any (·.1) || ((l.dropWhile (·.2)).head?.any (·.1))

mutual

/-- Must a shape be read from the end of the text at which reading begins? -/
def anchored (d : Direction) : Shape → Bool
  | .look l => l == match d with
    | .forward => .textStart
    | .backward => .textEnd
  | .repeat s min _ _ => 0 < min && s.anchored d
  | .group s => s.anchored d
  | .sequence l => holdsFirst (inOrder d (anchors d l))
  | .choice l => (anchors d l).all (·.1)
  | _ => false
termination_by structural x => x

/-- For each of some shapes, whether it is anchored and whether it reads nothing. -/
def anchors (d : Direction) : List Shape → List (Bool × Bool)
  | [] => []
  | s :: l => (s.anchored d, s.onlyEmpty) :: anchors d l
termination_by structural x => x

end

/-- A whole automaton: what is read before a match may begin, unless that is nothing, the shape as a
group of its own, and the state where a match has been found. -/
def automaton? (d : Direction) (s : Shape) : Option Extent := do
  let anyByte : Part := fun e => (e.grow? 2 2).map (·, false)
  let (e, fork) ← (if s.anchored d then .states 1 else anyByte.any true) ⟨0, 0⟩
  let (e, fork') ← (part d (.group s)).andThen (.states 1) e
  let e ← Part.connect fork e
  Part.connect fork' e

end Shape

/-- Do the automata of an expression stay small enough?  An expression that is a few words needs none. -/
def fits (r : Regex) : Bool :=
  let s := r.shape
  s.isWords || ((s.automaton? .forward).isSome && (s.automaton? .backward).isSome)

end BudgetRules.Regex
