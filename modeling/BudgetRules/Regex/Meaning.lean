import BudgetRules.Regex.Automaton
import BudgetRules.Regex.CaseFold
import BudgetRules.Regex.Matcher
import BudgetRules.Regex.Parser

/-!
# What a pattern means

`Pattern.regex?` turns a pattern into an expression.  Flags hold from where they stand to the end of their
group, across choices too.  A pattern that speaks of a property that does not exist means nothing,
and neither does one that with the flag `u` turned off could match a part of a character, nor one whose
automata would be too large.

A pattern of a condition ignores case unless it says otherwise.
-/

namespace BudgetRules.Regex

open Unicode

/-- The flags that decide what a pattern means. -/
structure Flags where
  caseInsensitive : Bool
  multiLine : Bool
  dotMatchesNewline : Bool
  swapGreed : Bool
  unicode : Bool
  anyLineEnd : Bool

/-- Where nothing is said, a pattern ignores case and speaks of all characters. -/
def Flags.start : Flags := ⟨true, false, false, false, true, false⟩

/-- The flags after some of them have been set. -/
def Flags.set (f : Flags) (l : FlagList) : Flags :=
  { caseInsensitive := (l.get? .caseInsensitive).getD f.caseInsensitive
    multiLine := (l.get? .multiLine).getD f.multiLine
    dotMatchesNewline := (l.get? .dotMatchesNewline).getD f.dotMatchesNewline
    swapGreed := (l.get? .swapGreed).getD f.swapGreed
    unicode := (l.get? .unicode).getD f.unicode
    anyLineEnd := (l.get? .anyLineEnd).getD f.anyLineEnd }

/-! ## Sets of characters -/

/-- A set with everything added that differs from a member in case only, if case is ignored. -/
def Flags.closeCase (f : Flags) (r : Ranges) : Ranges :=
  if f.caseInsensitive then closeUnder (if f.unicode then caseOrbits else asciiOrbits) r else r

/-- A set or its complement. -/
def negateIf (neg : Bool) (r : Ranges) : Ranges := if neg then r.complement else r

/-- The characters of `\d`, `\s` or `\w` in ASCII. -/
def Shorthand.asciiChars : Shorthand → Ranges
  | .digit => ⟨[(48, 57)]⟩
  | .space => ⟨[(9, 13), (32, 32)]⟩
  | .word => ⟨[(48, 57), (65, 90), (95, 95), (97, 122)]⟩

/-- The characters of `\d`, `\s` or `\w`. -/
def Shorthand.chars : Shorthand → Ranges
  | .digit => row categories "nd"
  | .space => row binaryProperties "space"
  | .word => wordRanges

/-- The characters that a shorthand stands for under some flags. -/
def Flags.shorthand (f : Flags) (c : Shorthand) (negated : Bool) : Ranges :=
  negateIf negated (if f.unicode then c.chars else c.asciiChars)

/-! ## Classes in brackets -/

/-- Can a literal stand in a set?  With the flag `u` turned off, only ASCII can. -/
def Flags.admits (f : Flags) (l : Literal) : Bool := f.unicode || l.char.toNat < 128

/-- The characters of a property.  It is closed under change of case before it is negated. -/
def Flags.property? (f : Flags) (p : PropertyName) (negated : Bool) : Option Ranges :=
  if f.unicode then p.chars?.map fun s => negateIf negated (f.closeCase s) else none

/-- The result of an operation on two sets. -/
def SetOperation.apply : SetOperation → Ranges → Ranges → Ranges
  | .intersection => Ranges.inter
  | .difference => Ranges.diff
  | .symmetricDifference => Ranges.symmDiff

mutual

/-- The characters of an item of a class. -/
def SetItem.chars? (f : Flags) : SetItem → Option Ranges
  | .range a b =>
    if f.admits a && f.admits b then some ⟨[(a.char.toNat, b.char.toNat)]⟩ else none
  | .ascii runs neg =>
    if neg && !f.unicode then none else some (negateIf neg (f.closeCase ⟨runs⟩))
  | .shorthand c neg => if neg && !f.unicode then none else some (f.shorthand c neg)
  | .property p neg => f.property? p neg
  | .bracket neg s =>
    if neg && !f.unicode then none
    else (s.chars? f).map fun r => negateIf neg (f.closeCase r)
termination_by structural x => x

/-- The characters of a class, those that differ in case only not yet added. -/
def SetPattern.chars? (f : Flags) : SetPattern → Option Ranges
  | .items l => (SetItem.runs? f l).map .ofRuns
  | .operation op a b => do
    let r ← a.chars? f
    let s ← b.chars? f
    return op.apply (f.closeCase r) (f.closeCase s)
termination_by structural x => x

/-- The runs of the characters of any of some items. -/
def SetItem.runs? (f : Flags) : List SetItem → Option (List (Nat × Nat))
  | [] => some []
  | i :: l => do
    let r ← i.chars? f
    return r.runs ++ (← SetItem.runs? f l)
termination_by structural x => x

end

/-! ## Patterns -/

/-- What an assertion means under some flags. -/
def Assertion.look (f : Flags) : Assertion → Look
  | .caret =>
    if f.multiLine then if f.anyLineEnd then .anyLineStart else .lineStart else .textStart
  | .dollar => if f.multiLine then if f.anyLineEnd then .anyLineEnd else .lineEnd else .textEnd
  | .textStart => .textStart
  | .textEnd => .textEnd
  | .wordEdge => .wordEdge !f.unicode
  | .noWordEdge => .noWordEdge !f.unicode
  | .wordStart => .wordStart !f.unicode
  | .wordEnd => .wordEnd !f.unicode
  | .wordStartHalf => .wordStartHalf !f.unicode
  | .wordEndHalf => .wordEndHalf !f.unicode

/-- The characters that a dot stands for. -/
def Flags.dot (f : Flags) : Ranges :=
  if f.dotMatchesNewline then ⟨[(0, Ranges.last)]⟩
  else if f.anyLineEnd then ⟨[(0, 9), (11, 12), (14, Ranges.last)]⟩
  else ⟨[(0, 9), (11, Ranges.last)]⟩

mutual

/-- What a pattern means under some flags, and the flags behind it. -/
def Pattern.interpret (f : Flags) : Pattern → Option (Regex × Flags)
  | .empty => some (.empty, f)
  | .flags l => some (.empty, f.set l)
  | .literal l =>
    if !f.unicode && l.byte && 128 ≤ l.char.toNat then none
    else some (.set (f.closeCase (.single l.char.toNat)) !f.unicode, f)
  | .dot => if f.unicode then some (.set f.dot false, f) else none
  | .assertion a => some (.look (a.look f), f)
  | .shorthand c neg =>
    if neg && !f.unicode then none
    else some (.set (f.shorthand c neg) !f.unicode, f)
  | .property p neg => (f.property? p neg).map fun s => (.set s false, f)
  | .bracket neg s => do
    let r ← SetItem.chars? f (.bracket neg s)
    return (.set r !f.unicode, f)
  | .repeat p min max greedy => do
    let (r, _) ← p.interpret f
    return (.repeat r min max (greedy != f.swapGreed), f)
  | .group numbered l p => do
    let (r, _) ← p.interpret (f.set l)
    return (if numbered then .group r else r, f)
  | .alternation l => Pattern.interpretChoice f l
  | .sequence l => Pattern.interpretSequence f l
termination_by structural x => x

def Pattern.interpretSequence (f : Flags) : List Pattern → Option (Regex × Flags)
  | [] => some (.empty, f)
  | p :: l => do
    let (r, f) ← p.interpret f
    let (s, f) ← Pattern.interpretSequence f l
    return (.cat r s, f)
termination_by structural x => x

def Pattern.interpretChoice (f : Flags) : List Pattern → Option (Regex × Flags)
  | [] => some (.never, f)
  | p :: l => do
    let (r, f) ← p.interpret f
    let (s, f) ← Pattern.interpretChoice f l
    return (.alt r s, f)
termination_by structural x => x

end

/-- What a pattern means, if anything. -/
def Pattern.regex? (p : Pattern) : Option Regex := (p.interpret .start).map (·.1)

/-- The expression written in a text, if the text is a pattern that means something. -/
def ofText? (pattern : List Char) : Option Regex := do
  let p ← Pattern.read? pattern
  let r ← p.regex?
  if r.fits then some r else none

end BudgetRules.Regex
