/-!
# Failures of commands

A failure is shown with the causes behind it, one a line and indented; several causes are numbered.
-/

namespace BudgetRules.CommandLine

/-- Why a command failed, and the causes behind that, the nearest first. -/
structure Failure where
  message : String
  causes : List String
deriving DecidableEq

namespace Failure

def of (message : String) : Failure := ⟨message, []⟩

/-- A text with something before its first line and something before each of the others. -/
def indent (first rest : String) (text : String) : String :=
  first ++ String.ofList (text.toList.flatMap fun c => if c = '\n' then '\n' :: rest.toList else [c])

/-- Causes with their numbers. -/
def numbered (n : Nat) : List String → String
  | [] => ""
  | c :: rest =>
    let number := toString n
    "\n" ++ indent (String.ofList (List.replicate (5 - number.length) ' ') ++ number ++ ": ") "       " c ++
      numbered (n + 1) rest

/-- The failure as it is shown. -/
def text (f : Failure) : String :=
  "Error: " ++ f.message ++
    (match f.causes with
    | [] => ""
    | [c] => "\n\nCaused by:\n" ++ indent "    " "    " c
    | cs => "\n\nCaused by:" ++ numbered 0 cs) ++ "\n"

end Failure

end BudgetRules.CommandLine
