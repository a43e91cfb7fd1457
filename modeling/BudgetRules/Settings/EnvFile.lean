import BudgetRules.Settings
import BudgetRules.Unicode.Letter

/-!
# Files of variables

A file of variables has lines `NAME=text`, perhaps after the word `export`.  A `#` after a blank starts a comment.
Texts may stand in quotes, over several lines too; in double quotes and outside of quotes a `$` puts in the
text of another variable and a backslash takes the meaning from the character after it.

The lines of a file count one by one up to the first that is malformed.  A variable that is set already
stays as it is.
-/

namespace BudgetRules.EnvFile

open Unicode

/-! ## Lines -/

/-- Where a reader of lines stands with respect to quotes. -/
inductive Quoting
  | plain
  | escape
  | single
  | singleEscape
  | double
  | doubleEscape
  /-- after a blank, where a comment may start -/
  | blank
  | comment
deriving DecidableEq

/-- What a character outside of quotes begins. -/
def Quoting.opening (c : Char) : Quoting :=
  if c = '\\' then .escape else if c = '"' then .double else if c = '\'' then .single else .plain

/-- The state after a character. -/
def Quoting.step (q : Quoting) (c : Char) : Quoting :=
  match q with
  | .blank => if c = '#' then .comment else opening c
  | .escape => .plain
  | .plain => if isBlank c ∧ c ≠ '\n' ∧ c ≠ '\r' then .blank else opening c
  | .double => if c = '\\' then .doubleEscape else if c = '"' then .plain else .double
  | .doubleEscape => .double
  | .single => if c = '\\' then .singleEscape else if c = '\'' then .plain else .single
  | .singleEscape => .single
  | .comment => .comment

/-- The characters before a comment, and the state after them. -/
def scan : Quoting → List Char → List Char × Quoting
  | q, [] => ([], q)
  | q, c :: cs =>
    match q.step c with
    | .comment => ([], .comment)
    | q =>
      let (kept, q) := scan q cs
      (c :: kept, q)

/-- A line without the characters that end it. -/
def withoutEnd (line : List Char) : List Char :=
  match line.reverse with
  | '\n' :: '\r' :: r => r.reverse
  | '\n' :: r => r.reverse
  | _ => line

/-- Puts lines together while a quote is open; `none` stands for a line that is malformed, and ends the
list.  `read` is what has been read of the current one. -/
def assemble (read : List Char) (q : Quoting) : List (Option (List Char)) → List (Option (List Char))
  | [] => if q = .plain then [] else [none]
  | none :: _ => [none]
  | some line :: rest =>
    let all := read ++ line
    if (trimStart all).head? = some '#' then some [] :: assemble [] .plain rest
    else
      match scan q line with
      | (_, .plain) => some (withoutEnd all) :: assemble [] .plain rest
      | (kept, .comment) => some (read ++ kept) :: assemble [] .plain rest
      | (_, q) => assemble all q rest

/-- The bytes up to the end of each line, that end included. -/
def splitLines : List UInt8 → List (List UInt8)
  | [] => []
  | b :: bs =>
    if b = 10 then [b] :: splitLines bs
    else
      match splitLines bs with
      | [] => [[b]]
      | l :: ls => (b :: l) :: ls

/-- The characters of some bytes if they are UTF-8. -/
def decode (bytes : List UInt8) : Option (List Char) :=
  (String.fromUTF8? bytes.toByteArray).map String.toList

/-- The bytes without the mark that may stand at the start of a text. -/
def withoutMark : List UInt8 → List UInt8
  | 0xEF :: 0xBB :: 0xBF :: r => r
  | bs => bs

/-- The lines of a file, as far as the first that is malformed. -/
def lines (bytes : ByteArray) : List (Option (List Char)) :=
  assemble [] .plain ((splitLines (withoutMark bytes.toList)).map decode)

/-! ## Texts -/

/-- Where a reader of a text stands. -/
inductive Mode
  | text
  | single
  | escaped
  /-- in the name after a `$` -/
  | name (name : List Char)
  /-- in the name after a `$` and an opening brace -/
  | braced (name : List Char)
  /-- after a blank outside of quotes, where only a comment may follow -/
  | ending
  | comment

/-- A text that is being read. -/
structure Reading where
  output : List Char
  /-- inside double quotes? -/
  double : Bool
  mode : Mode

/-- The text after one more character; `value` gives the texts of other variables. -/
def Reading.step (value : List Char → List Char) (p : Reading) (c : Char) : Option Reading :=
  let push : Reading := { p with output := p.output ++ [c], mode := .text }
  match p.mode with
  | .comment => some p
  | .ending =>
    if c = ' ' ∨ c = '\t' then some p
    else if c = '#' then some { p with mode := .comment }
    else none
  | .escaped =>
    if c = '\\' ∨ c = '\'' ∨ c = '"' ∨ c = '$' ∨ c = ' ' then some push
    else if c = 'n' then some { p with output := p.output ++ ['\n'], mode := .text }
    else none
  | .single => if c = '\'' then some { p with mode := .text } else some { push with mode := .single }
  | .name name =>
    if isAlphanumeric c then some { p with mode := .name (name ++ [c]) }
    else if c = '{' ∧ name.isEmpty then some { p with mode := .braced [] }
    else
      let output := p.output ++ value name
      if c = '$' then some { p with output := output, mode := .name [] }
      else some { p with output := output ++ [c], mode := .text }
  | .braced name =>
    if c = '}' then some { p with output := p.output ++ value name, mode := .text }
    else some { p with mode := .braced (name ++ [c]) }
  | .text =>
    if c = '$' then some { p with mode := .name [] }
    else if c = '\\' then some { p with mode := .escaped }
    else if p.double then (if c = '"' then some { p with double := false } else some push)
    else if c = '\'' then some { p with mode := .single }
    else if c = '"' then some { p with double := true }
    else if c = ' ' ∨ c = '\t' then some { p with mode := .ending }
    else some push

/-- The text at the end of a line; a quote or a brace must not be open. -/
def Reading.finish (value : List Char → List Char) (p : Reading) : Option String :=
  if p.double then none
  else
    match p.mode with
    | .single => none
    | .braced _ => none
    | .name name => some (String.ofList (p.output ++ value name))
    | _ => some (String.ofList p.output)

/-- The text that is written after `=`. -/
def readText (value : List Char → List Char) (cs : List Char) : Option String := do
  (← cs.foldlM (Reading.step value) ⟨[], false, .text⟩).finish value

/-! ## Variables -/

/-- A name at the start of some characters, and the rest. -/
def readName (cs : List Char) : Option (List Char × List Char) :=
  match cs with
  | [] => none
  | c :: _ =>
    if c.isAlpha ∨ c = '_' then
      let isPart (c : Char) : Bool := c.isAlphanum || c == '_' || c == '.'
      some (cs.takeWhile isPart, cs.dropWhile isPart)
    else none

/-- What follows `=`, with blanks before and after it passed over. -/
def afterEquals (cs : List Char) : Option (List Char) :=
  match trimStart cs with
  | '=' :: r => some (trimStart r)
  | _ => none

/-- The name and what follows `=` on a line, which may begin with `export`. -/
def readAssignment (cs : List Char) : Option (List Char × List Char) := do
  let (name, r) ← readName cs
  match afterEquals r with
  | some r => return (name, r)
  | none =>
    if name = "export".toList then
      let (name, r) ← readName (trimStart r)
      return (name, ← afterEquals r)
    else none

/-- What has been read of a file: the variables that are set, and the texts that the file gives. -/
structure State where
  result : Variables
  given : Variables

/-- What follows a name and a `=` in a variable that is written as its own name, a `=` and its text. -/
def behindName? (name : List Char) : String × String → Option (List Char)
  | (n, text) =>
    let start := name ++ ['=']
    let all := n.toList ++ '=' :: text.toList
    if start.isPrefixOf all then some (all.drop start.length) else none

/-- The text that a `$` puts in: that of a variable that is set, else the last one in the file.  Since a
variable that is set is looked for by the name and a `=`, a name `A=x` finds the variable `A` if its text
begins with `x=`. -/
def State.value (s : State) (name : List Char) : List Char :=
  match s.result.findSome? (behindName? name) with
  | some text => text
  | none => ((s.given.lookup (String.ofList name)).getD "").toList

/-- The state after a variable. -/
def State.assign (s : State) (name text : String) : State where
  result :=
    if (s.result.lookup name).isSome then s.result else s.result ++ [(name, text)]
  given := (name, text) :: s.given

/-- The state after a line, unless the line is malformed. -/
def State.line (s : State) (line : List Char) : Option State :=
  match trim line with
  | [] => some s
  | '#' :: _ => some s
  | cs => do
    let (name, r) ← readAssignment cs
    match r with
    | [] => return s.assign (String.ofList name) ""
    | '#' :: _ => return s.assign (String.ofList name) ""
    | _ => return s.assign (String.ofList name) (← readText s.value r)

/-- The state after the lines of a file, and whether all of them were well-formed. -/
def State.lines (s : State) : List (Option (List Char)) → State × Bool
  | [] => (s, true)
  | none :: _ => (s, false)
  | some l :: rest =>
    match s.line l with
    | none => (s, false)
    | some s => State.lines s rest

/-- The variables after those of a file have been added, and whether the file was well-formed. -/
def merge (vars : Variables) (bytes : ByteArray) : Variables × Bool :=
  let (s, ok) := State.lines ⟨vars, []⟩ (lines bytes)
  (s.result, ok)

/-- The paths of the file in the working directory and in those that it stands in, the nearest first. -/
def candidates (depth : Nat) : List String :=
  (List.range (depth + 1)).map fun n => String.join (List.replicate n "../") ++ ".env"

/-- The bytes of the first of some paths at which there is a file. -/
def nearest : List String → Script (Except FileError ByteArray)
  | [] => return .error .notFound
  | path :: rest => do
    match ← Script.read path with
    | .ok bytes => return .ok bytes
    | .error .notFound => nearest rest
    | .error .isDirectory => nearest rest
    | .error e => return .error e

/-- The variables with those of the nearest file `.env` if there is one, and whether it could be read; `depth` says how
many directories the working directory stands in. -/
def load (depth : Nat) (vars : Variables) : Script (Variables × Bool) := do
  match ← nearest (candidates depth) with
  | .ok bytes => return merge vars bytes
  | .error .notFound => return (vars, true)
  | .error _ => return (vars, false)

end BudgetRules.EnvFile
