import BudgetRules.Regex
import BudgetRules.Unicode.Utf8

/-!
# Shapes of expressions

The shape of an expression is the expression in the form from which its automata are built: characters in
a row are one literal, sequences and choices are flat, a choice between characters is a set, what
all choices begin with stands before them, and a repetition of nothing is nothing.
-/

namespace BudgetRules.Regex

open Unicode

/-- A simplified expression. -/
inductive Shape
  | empty
  /-- characters in a row, by their code points -/
  | literal (chars : List Nat)
  /-- one character of a set; `ascii` says that the set was meant for ASCII alone -/
  | set (chars : Ranges) (ascii : Bool)
  | look (l : Look)
  | repeat (s : Shape) (min : Nat) (max : Option Nat) (greedy : Bool)
  | group (s : Shape)
  | sequence (l : List Shape)
  | choice (l : List Shape)

namespace Shape

/-! ## Comparing -/

mutual

/-- Are two shapes the same?  No group is the same as another one. -/
def same : Shape → Shape → Bool
  | .empty, .empty => true
  | .literal a, .literal b => a == b
  | .set r a, .set s b => r == s && a == b
  | .look l, .look m => l == m
  | .repeat s a b g, .repeat t c d h => a == c && b == d && g == h && same s t
  | .sequence l, .sequence m => sameAll l m
  | .choice l, .choice m => sameAll l m
  | _, _ => false
termination_by structural x => x

def sameAll : List Shape → List Shape → Bool
  | [], [] => true
  | s :: l, t :: m => same s t && sameAll l m
  | _, _ => false
termination_by structural x => x

end

mutual

/-- The number of parts. -/
def size : Shape → Nat
  | .repeat s _ _ _ => s.size + 1
  | .group s => s.size + 1
  | .sequence l => sizeAll l + 1
  | .choice l => sizeAll l + 1
  | _ => 1
termination_by structural x => x

def sizeAll : List Shape → Nat
  | [] => 0
  | s :: l => s.size + sizeAll l
termination_by structural x => x

end

/-! ## Lengths -/

mutual

/-- The least number of bytes of what a shape matches, if it can match anything. -/
def minLength : Shape → Option Nat
  | .empty => some 0
  | .literal cs => some (cs.foldl (fun n c => n + utf8Length c) 0)
  | .set r _ => r.runs.head?.map fun p => utf8Length p.1
  | .look _ => some 0
  | .repeat s min _ _ => s.minLength.map (· * min)
  | .group s => s.minLength
  | .sequence l => (minLengths l).foldlM (fun n m => m.map (n + ·)) 0
  | .choice l =>
    match minLengths l with
    | [] => none
    | m :: ms => ms.foldl (fun n m => do return min (← n) (← m)) m
termination_by structural x => x

def minLengths : List Shape → List (Option Nat)
  | [] => []
  | s :: l => s.minLength :: minLengths l
termination_by structural x => x

end

mutual

/-- Does a shape match nothing but the empty text? -/
def onlyEmpty : Shape → Bool
  | .empty => true
  | .literal cs => cs.isEmpty
  | .set _ _ => false
  | .look _ => true
  | .repeat s _ max _ => max.isSome && s.onlyEmpty
  | .group s => s.onlyEmpty
  | .sequence l => allOnlyEmpty l
  | .choice l => allOnlyEmpty l
termination_by structural x => x

def allOnlyEmpty : List Shape → Bool
  | [] => true
  | s :: l => s.onlyEmpty && allOnlyEmpty l
termination_by structural x => x

end

/-! ## Building shapes -/

/-- A set; a set of one character is that character. -/
def ofSet (r : Ranges) (ascii : Bool) : Shape :=
  match r.runs with
  | [] => .set ⟨[]⟩ true
  | [(a, b)] => if a = b then .literal [a] else .set r ascii
  | _ => .set r ascii

/-- The parts of a sequence. -/
def items : Shape → List Shape
  | .empty => []
  | .sequence l => l
  | s => [s]

/-- Two sequences in a row; the literals that meet become one. -/
def joinItems : List Shape → List Shape → List Shape
  | [], l => l
  | [.literal a], .literal b :: l => .literal (a ++ b) :: l
  | s :: r, l => s :: joinItems r l

/-- The shape of the parts of a sequence. -/
def ofItems : List Shape → Shape
  | [] => .empty
  | [s] => s
  | l => .sequence l

/-- One shape and then another one. -/
def andThen (s t : Shape) : Shape := ofItems (joinItems s.items t.items)

/-- A repetition.  What matches only the empty text is not repeated. -/
def times (s : Shape) (min : Nat) (max : Option Nat) (greedy : Bool) : Shape :=
  let (min, max) := if s.onlyEmpty then (Nat.min min 1, some ((max.getD 1).min 1)) else (min, max)
  if max = some 0 then .empty
  else if min = 1 ∧ max = some 1 then s
  else .repeat s min max greedy

/-- The parts of a choice. -/
def alternatives : Shape → List Shape
  | .choice l => l
  | s => [s]

/-- The characters of choices that are one character each. -/
def singletons? : List Shape → Option (List (Nat × Nat))
  | [] => some []
  | .literal [c] :: l => (singletons? l).map ((c, c) :: ·)
  | _ => none

/-- The characters of choices that are sets. -/
def sets? : List Shape → Option (List (Nat × Nat))
  | [] => some []
  | .set r _ :: l => (sets? l).map (r.runs ++ ·)
  | _ => none

/-- What two sequences both begin with. -/
def commonItems : List Shape → List Shape → List Shape
  | s :: l, t :: m => if same s t then s :: commonItems l m else []
  | _, _ => []

/-- The sequences that choices are, if all of them are sequences. -/
def sequences? (l : List Shape) : Option (List (List Shape)) :=
  l.mapM fun
    | .sequence l => some l
    | _ => none

/-- What all choices begin with, and what is left of each. -/
def commonStart (l : List Shape) : List Shape × List Shape :=
  match sequences? l with
  | some (s :: r) =>
    let common := r.foldl commonItems s
    (common, (s :: r).map fun s => ofItems (s.drop common.length))
  | _ => ([], l)

/-- A choice.  Each round of the fuel takes the common start off all choices. -/
def ofChoices : Nat → List Shape → Shape
  | 0, l => .choice l
  | fuel + 1, l =>
    match l.flatMap alternatives with
    | [] => .set ⟨[]⟩ true
    | [s] => s
    | l =>
      match singletons? l, sets? l, commonStart l with
      | some runs, _, _ => ofSet (.ofRuns runs) false
      | _, some runs, _ => ofSet (.ofRuns runs) false
      | _, _, ([], _) => .choice l
      | _, _, (common, rest) => (ofItems common).andThen (ofChoices fuel rest)

end Shape

/-! ## The shape of an expression -/

mutual

/-- The shape of an expression. -/
def shape : Regex → Shape
  | .empty => .empty
  | .set r ascii => .ofSet r ascii
  | .look l => .look l
  | .cat r s => r.shape.andThen s.shape
  | .alt r s =>
    let l := r.shape :: s.choiceShapes
    .ofChoices (Shape.sizeAll l + 1) l
  | .repeat r min max greedy => r.shape.times min max greedy
  | .group r => .group r.shape
termination_by structural x => x

/-- The shapes of the choices in the rest of a choice. -/
def choiceShapes : Regex → List Shape
  | .alt r s => r.shape :: s.choiceShapes
  | _ => []
termination_by structural x => x

end

end BudgetRules.Regex
