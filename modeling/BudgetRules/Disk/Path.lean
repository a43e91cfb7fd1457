/-!
# Paths

A path is a text of names with slashes between.  Empty names count for nothing, and neither does a lone dot
except at the start.
-/

namespace BudgetRules.Path

/-- The pieces of a text between slashes. -/
def pieces : List Char → List (List Char)
  | [] => [[]]
  | c :: cs =>
    if c = '/' then [] :: pieces cs
    else
      match pieces cs with
      | [] => [[c]]
      | p :: ps => (c :: p) :: ps

/-- The names of a path from left to right. -/
def steps (path : String) : List String :=
  ((pieces path.toList).filter fun p => !p.isEmpty).map String.ofList

def isAbsolute (path : String) : Bool := path.toList.head? == some '/'

/-- Does a path end in a slash, so that it can only be a directory? -/
def endsInSlash (path : String) : Bool := path.toList.getLast? == some '/'

/-- The steps without lone dots after the first. -/
def components (path : String) : List String :=
  match steps path with
  | [] => []
  | s :: rest =>
    if s = "." ∧ isAbsolute path then rest.filter (· ≠ ".") else s :: rest.filter (· ≠ ".")

/-- The path of some components. -/
def ofComponents (absolute : Bool) (cs : List String) : String :=
  (if absolute then "/" else "") ++ String.intercalate "/" cs

/-- The directory that a path stands in; empty for a single name. -/
def parent? (path : String) : Option String :=
  match components path with
  | [] => none
  | cs => some (ofComponents (isAbsolute path) cs.dropLast)

/-- The directories that a path stands in, the nearest first. -/
def ancestors (path : String) : List String :=
  let cs := components path
  (List.range cs.length).reverse.map fun n => ofComponents (isAbsolute path) (cs.take n)

/-- The text of a path, last character first, without the slashes and lone dots at its end. -/
def withoutTail : List Char → List Char
  | '/' :: r => withoutTail r
  | '.' :: '/' :: r => withoutTail r
  | r => r

/-- The name that a path ends with, and the text in front of it.  The way up and a lone dot are no
names. -/
def fileName? (path : List Char) : Option (List Char × List Char) :=
  let r := withoutTail path.reverse
  let name := (r.takeWhile (· ≠ '/')).reverse
  if name = [] ∨ name = ['.'] ∨ name = ['.', '.'] then none
  else some ((r.dropWhile (· ≠ '/')).reverse, name)

/-- A name without its last dot and what follows it, and what follows that dot; a dot at the start is part
of the name. -/
def splitExtension (name : List Char) : List Char × Option (List Char) :=
  let extension := (name.reverse.takeWhile (· ≠ '.')).reverse
  match name.reverse.dropWhile (· ≠ '.') with
  | [] => (name, none)
  | [_] => (name, none)
  | _ :: r => (r.reverse, some extension)

/-- The path with another extension.  The old one is first cut off the end of the text; what is left may
be a path that ends with no name, and then stays. -/
def withExtension (path extension : String) : String :=
  let cs := path.toList
  let old := (fileName? cs).bind fun (_, name) => (splitExtension name).2
  let cs := cs.take (cs.length - (old.getD []).length)
  String.ofList <|
    match fileName? cs with
    | none => cs
    | some (front, name) => front ++ (splitExtension name).1 ++ '.' :: extension.toList

/-- A name inside a directory. -/
def join (directory name : String) : String :=
  if isAbsolute name ∨ directory.isEmpty then name
  else if endsInSlash directory then directory ++ name
  else directory ++ "/" ++ name

end BudgetRules.Path
