/-!
# Blank characters

The characters with the property White_Space, and the removal of blanks from both ends of a
text.
-/

namespace BudgetRules.Unicode

/-- Has the property White_Space. -/
def isBlank (c : Char) : Bool :=
  let n := c.toNat
  (9 ≤ n && n ≤ 13) || n == 0x20 || n == 0x85 || n == 0xa0 || n == 0x1680 ||
    (0x2000 ≤ n && n ≤ 0x200a) || n == 0x2028 || n == 0x2029 || n == 0x202f || n == 0x205f ||
    n == 0x3000

/-- Blanks removed at the start. -/
def trimStart (cs : List Char) : List Char := cs.dropWhile isBlank

/-- Blanks removed at the end. -/
def trimEnd (cs : List Char) : List Char := (cs.reverse.dropWhile isBlank).reverse

/-- Blanks removed at both ends. -/
def trim (cs : List Char) : List Char := trimEnd (trimStart cs)

/-- Nothing but blanks. -/
def allBlank (s : String) : Bool := s.toList.all isBlank

end BudgetRules.Unicode
