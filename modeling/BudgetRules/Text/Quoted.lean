import BudgetRules.Unicode.Hidden

/-!
# Texts quoted in messages

A text in a message stands in double quotes.  Quotes, backslashes and the common control
characters are written with a backslash; characters that show nothing by themselves are written
by their code point.
-/

namespace BudgetRules.Text

open Unicode

/-- A character inside a quoted text. -/
def quotedChar (c : Char) : List Char :=
  if c.toNat = 0 then ['\\', '0']
  else if c = '\t' then ['\\', 't']
  else if c = '\r' then ['\\', 'r']
  else if c = '\n' then ['\\', 'n']
  else if c = '"' then ['\\', '"']
  else if c = '\\' then ['\\', '\\']
  else if isHidden c then ['\\', 'u', '{'] ++ Nat.toDigits 16 c.toNat ++ ['}']
  else [c]

/-- A text in quotes, as messages show it. -/
def quoted (s : String) : String :=
  String.ofList ('"' :: (s.toList.flatMap quotedChar ++ ['"']))

end BudgetRules.Text
