import BudgetRules.Regex.Property

/-!
# Regular expressions

A `Regex` matches stretches of a text: single characters out of a set, and conditions on a
position, put together in sequence, by choice and by repetition.  `Matches text r i j` says that `r`
matches the stretch from position `i` to position `j`; the matcher is measured against it.
-/

namespace BudgetRules

open Unicode Regex

/-! ## Conditions on a position -/

/-- A condition on a position of a text. -/
inductive Look
  | textStart
  | textEnd
  /-- after a line feed, or at the start -/
  | lineStart
  /-- before a line feed, or at the end -/
  | lineEnd
  /-- like `lineStart`, but a carriage return ends a line too, alone or with a line feed -/
  | anyLineStart
  | anyLineEnd
  /-- between a word character and another one; `ascii` says which characters are meant -/
  | wordEdge (ascii : Bool)
  | noWordEdge (ascii : Bool)
  | wordStart (ascii : Bool)
  | wordEnd (ascii : Bool)
  | wordStartHalf (ascii : Bool)
  | wordEndHalf (ascii : Bool)
deriving DecidableEq

/-- Letters, marks, decimal digits, connectors and joiners. -/
def wordRanges : Ranges :=
  (row binaryProperties "alphabetic").union <|
    (row binaryProperties "joinc").union (categoryUnion ["mn", "mc", "me", "nd", "pc"])

/-- A word character of ASCII. -/
def isAsciiWord (n : Nat) : Bool :=
  (48 ≤ n && n ≤ 57) || (65 ≤ n && n ≤ 90) || n == 95 || (97 ≤ n && n ≤ 122)

/-- A word character, of ASCII alone or of all. -/
def isWord (ascii : Bool) (n : Nat) : Bool :=
  if n < 128 then isAsciiWord n else !ascii && wordRanges.contains n

/-- Is the neighbour a word character?  There is none beyond an end of the text. -/
def wordAt (ascii : Bool) (c : Option Char) : Bool := c.any fun c => isWord ascii c.toNat

/-- Does a condition hold between two neighbours? -/
def Look.holds (before after : Option Char) : Look → Bool
  | .textStart => before.isNone
  | .textEnd => after.isNone
  | .lineStart => before.all (· == '\n')
  | .lineEnd => after.all (· == '\n')
  | .anyLineStart =>
    match before with
    | none => true
    | some c => c == '\n' || (c == '\r' && after != some '\n')
  | .anyLineEnd =>
    match after with
    | none => true
    | some c => c == '\r' || (c == '\n' && before != some '\r')
  | .wordEdge a => wordAt a before != wordAt a after
  | .noWordEdge a => wordAt a before == wordAt a after
  | .wordStart a => !wordAt a before && wordAt a after
  | .wordEnd a => wordAt a before && !wordAt a after
  | .wordStartHalf a => !wordAt a before
  | .wordEndHalf a => !wordAt a after

/-! ## Expressions -/

/-- A regular expression. -/
inductive Regex
  | empty
  /-- one character of a set; `ascii` says that the set was meant for ASCII alone -/
  | set (chars : Ranges) (ascii : Bool)
  | look (l : Look)
  | cat (r s : Regex)
  | alt (r s : Regex)
  /-- `min` times or more, at most `max` times if there is a bound; `greedy` says whether many times
  are preferred to few, which does not change what is matched -/
  | repeat (r : Regex) (min : Nat) (max : Option Nat) (greedy : Bool)
  /-- what is matched here is kept -/
  | group (r : Regex)

namespace Regex

/-- Matches nothing. -/
def never : Regex := .set ⟨[]⟩ false

/-- The neighbours of the position `i`. -/
def before (text : List Char) (i : Nat) : Option Char := if i = 0 then none else text[i - 1]?

def after (text : List Char) (i : Nat) : Option Char := text[i]?

mutual

/-- `r` matches the stretch of the text from position `i` to position `j`. -/
inductive Matches (text : List Char) : Regex → Nat → Nat → Prop
  | empty {i} (h : i ≤ text.length) : Matches text .empty i i
  | set {s a i c} (h : text[i]? = some c) (hs : s.contains c.toNat = true) :
      Matches text (.set s a) i (i + 1)
  | look {l i} (h : i ≤ text.length) (hl : l.holds (before text i) (after text i) = true) :
      Matches text (.look l) i i
  | cat {r s i j k} (hr : Matches text r i j) (hs : Matches text s j k) :
      Matches text (.cat r s) i k
  | altLeft {r s i j} (h : Matches text r i j) : Matches text (.alt r s) i j
  | altRight {r s i j} (h : Matches text s i j) : Matches text (.alt r s) i j
  | repeat {r min max g n i j} (h : Times text r n i j) (hmin : min ≤ n)
      (hmax : ∀ m, max = some m → n ≤ m) : Matches text (.repeat r min max g) i j
  | group {r i j} (h : Matches text r i j) : Matches text (.group r) i j

/-- `r` matches `n` times in a row from position `i` to position `j`. -/
inductive Times (text : List Char) : Regex → Nat → Nat → Nat → Prop
  | zero {r i} (h : i ≤ text.length) : Times text r 0 i i
  | succ {r n i j k} (hr : Matches text r i j) (h : Times text r n j k) :
      Times text r (n + 1) i k

end

/-- `r` matches some stretch of the text. -/
def Found (text : List Char) (r : Regex) : Prop := ∃ i j, Matches text r i j

end Regex

end BudgetRules
