import BudgetRules.Regex.Property

/-!
# Patterns

A `Pattern` is a regular expression as it is written, before flags such as `(?i)` are applied to
what follows them.
-/

namespace BudgetRules.Regex

/-- The flags that a pattern can turn on and off. -/
inductive Flag
  | caseInsensitive
  | multiLine
  | dotMatchesNewline
  | swapGreed
  | unicode
  | anyLineEnd
  | verbose
deriving DecidableEq

/-- Flags as they are written, each with what it is set to. -/
abbrev FlagList := List (Flag × Bool)

/-- What a list of flags sets a flag to. -/
def FlagList.get? (l : FlagList) (f : Flag) : Option Bool := l.lookup f

/-- The classes `\d`, `\s` and `\w`. -/
inductive Shorthand
  | digit
  | space
  | word
deriving DecidableEq

/-- What an assertion is written as; flags decide what it means. -/
inductive Assertion
  | caret
  | dollar
  | textStart
  | textEnd
  | wordEdge
  | noWordEdge
  | wordStart
  | wordEnd
  | wordStartHalf
  | wordEndHalf
deriving DecidableEq

/-- A character as it is written; `byte` if it is written as `\x` and two digits. -/
structure Literal where
  char : Char
  byte : Bool
deriving DecidableEq

/-- Operations on sets of characters. -/
inductive SetOperation
  | intersection
  | difference
  | symmetricDifference
deriving DecidableEq

mutual

/-- An item of a class in brackets. -/
inductive SetItem
  | range (first last : Literal)
  /-- a class such as `[:alpha:]`, by the runs of its characters -/
  | ascii (runs : List (Nat × Nat)) (negated : Bool)
  | shorthand (c : Shorthand) (negated : Bool)
  | property (p : PropertyName) (negated : Bool)
  | bracket (negated : Bool) (set : SetPattern)

/-- What stands in brackets. -/
inductive SetPattern
  | items (l : List SetItem)
  | operation (op : SetOperation) (left right : SetPattern)

end

/-- A pattern. -/
inductive Pattern
  | empty
  | flags (l : FlagList)
  | literal (l : Literal)
  | dot
  | assertion (a : Assertion)
  | shorthand (c : Shorthand) (negated : Bool)
  | property (p : PropertyName) (negated : Bool)
  | bracket (negated : Bool) (set : SetPattern)
  /-- `greedy` if it is written without a question mark behind it -/
  | repeat (p : Pattern) (min : Nat) (max : Option Nat) (greedy : Bool)
  /-- `numbered` if what it matches is kept -/
  | group (numbered : Bool) (flags : FlagList) (p : Pattern)
  | alternation (l : List Pattern)
  | sequence (l : List Pattern)

/-! ## Nesting -/

mutual

/-- How deeply the items of a class are nested. -/
def SetItem.depth : SetItem → Nat
  | .range _ _ => 0
  | .ascii _ _ => 0
  | .shorthand _ _ => 0
  | .property _ _ => 0
  | .bracket _ s => s.depth + 1
termination_by structural x => x

def SetPattern.depth : SetPattern → Nat
  | .items [] => 0
  | .items [i] => i.depth
  | .items (i :: l) => max i.depth (SetItem.depthAll l) + 1
  | .operation _ a b => max a.depth b.depth + 1
termination_by structural x => x

def SetItem.depthAll : List SetItem → Nat
  | [] => 0
  | i :: l => max i.depth (SetItem.depthAll l)
termination_by structural x => x

end

mutual

/-- How deeply groups, classes, repetitions, choices and sequences are nested. -/
def Pattern.depth : Pattern → Nat
  | .empty => 0
  | .flags _ => 0
  | .literal _ => 0
  | .dot => 0
  | .assertion _ => 0
  | .shorthand _ _ => 0
  | .property _ _ => 0
  | .bracket _ s => s.depth + 1
  | .repeat p _ _ _ => p.depth + 1
  | .group _ _ p => p.depth + 1
  | .alternation l => Pattern.depthAll l + 1
  | .sequence l => Pattern.depthAll l + 1
termination_by structural x => x

def Pattern.depthAll : List Pattern → Nat
  | [] => 0
  | p :: l => max p.depth (Pattern.depthAll l)
termination_by structural x => x

end

/-- The deepest nesting that a pattern may have. -/
def depthLimit : Nat := 250

/-- Items in a row as one pattern. -/
def Pattern.ofItems : List Pattern → Pattern
  | [] => .empty
  | [p] => p
  | l => .sequence l

/-- Choices as one pattern. -/
def Pattern.ofChoices : List Pattern → Pattern
  | [] => .empty
  | [p] => p
  | l => .alternation l

end BudgetRules.Regex
