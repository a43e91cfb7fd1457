import BudgetRules.Regex.Syntax
import BudgetRules.Unicode.Blank
import BudgetRules.Unicode.Letter

/-!
# Reading patterns

`Pattern.read?` reads a pattern, or gives none if it is not well formed.  In verbose mode, turned
on by the flag `x`, blanks and comments from `#` to the end of the line are passed over, inside
classes and escapes too.
-/

namespace BudgetRules.Regex

open Unicode (isBlank isAlphabetic isAlphanumeric)

/-! ## Blanks and comments -/

/-- The text after the blanks and comments at its start. -/
def skipComments : (inComment : Bool) → List Char → List Char
  | _, [] => []
  | true, c :: cs => skipComments (c != '\n') cs
  | false, c :: cs =>
    if isBlank c then skipComments false cs
    else if c = '#' then skipComments true cs
    else c :: cs

/-- In verbose mode, the text after the blanks and comments at its start. -/
def space (verbose : Bool) (cs : List Char) : List Char :=
  if verbose then skipComments false cs else cs

/-- In verbose mode, the first character after blanks and one `#` among them; a comment is not passed
over.  A text with nothing else gives its first character. -/
def peek (verbose : Bool) (cs : List Char) : Option Char :=
  let r := cs.dropWhile isBlank
  let r := match r with
    | '#' :: r => r.dropWhile isBlank
    | r => r
  if verbose then r.head?.or cs.head? else cs.head?

/-- The characters before one that stops, blanks and comments left out; the fuel bounds their
number. -/
def collect (verbose : Bool) (stop : Char → Bool) : Nat → List Char → List Char × List Char
  | 0, cs => ([], cs)
  | _ + 1, [] => ([], [])
  | fuel + 1, c :: cs =>
    if stop c then ([], c :: cs)
    else
      let (l, r) := collect verbose stop fuel (space verbose cs)
      (c :: l, r)

def collectUntil (verbose : Bool) (stop : Char → Bool) (cs : List Char) :
    List Char × List Char :=
  collect verbose stop (cs.length + 1) (space verbose cs)

/-! ## Escapes -/

def hexValue? (c : Char) : Option Nat :=
  if c.isDigit then some (c.toNat - 48)
  else if 'a' ≤ c ∧ c ≤ 'f' then some (c.toNat - 87)
  else if 'A' ≤ c ∧ c ≤ 'F' then some (c.toNat - 55)
  else none

/-- A character by its code point. -/
def scalar? (n : Nat) : Option Char := if h : n.isValidChar then some (Char.ofNatAux n h) else none

/-- A character by a fixed number of hexadecimal digits. -/
def hexFixed (verbose : Bool) : Nat → Nat → List Char → Option (Char × List Char)
  | 0, n, cs => (scalar? n).map fun c => (c, cs)
  | _ + 1, _, [] => none
  | k + 1, n, c :: cs => do hexFixed verbose k (16 * n + (← hexValue? c)) (space verbose cs)

/-- A character by hexadecimal digits, a fixed number of them or any number in braces, after the letter
that announces them. -/
def hex (verbose : Bool) (digits : Nat) (cs : List Char) : Option (Literal × List Char) :=
  match space verbose cs with
  | '{' :: r =>
    match collectUntil verbose (· == '}') r with
    | ([], _) => none
    | (ds, '}' :: r) => do
      let n ← ds.foldlM (fun n c => (hexValue? c).map (16 * n + ·)) 0
      return (⟨← scalar? n, false⟩, space verbose r)
    | _ => none
  | r => do
    let (c, r) ← hexFixed verbose digits 0 r
    return (⟨c, digits == 2⟩, r)

/-- The place of the first occurrence of a text, and what follows it. -/
def cutAt (mark : List Char) : List Char → Option (List Char × List Char)
  | [] => none
  | c :: cs =>
    if mark.isPrefixOf (c :: cs) then some ([], (c :: cs).drop mark.length)
    else (cutAt mark cs).map fun (a, b) => (c :: a, b)

/-- The property that a name in braces speaks of, and whether the characters without it are meant: `!=`
says that they have another value. -/
def propertyName (name : List Char) : PropertyName × Bool :=
  let valued (a b : List Char) : PropertyName := .value (String.ofList a) (String.ofList b)
  match cutAt ['!', '='] name, cutAt [':'] name, cutAt ['='] name with
  | some (a, b), _, _ => (valued a b, true)
  | _, some (a, b), _ => (valued a b, false)
  | _, _, some (a, b) => (valued a b, false)
  | _, _, _ => (.plain (String.ofList name), false)

/-- A property after its `p`: one letter, or a name in braces. -/
def property (verbose : Bool) (cs : List Char) : Option ((PropertyName × Bool) × List Char) :=
  match space verbose cs with
  | [] => none
  | '{' :: r =>
    match collectUntil verbose (· == '}') r with
    | (name, '}' :: r) => some (propertyName name, r)
    | _ => none
  | c :: r =>
    if c = '\\' then none else some ((.plain (String.ofList [c]), false), space verbose r)

/-- What an escape or a single character stands for. -/
inductive Primitive
  | literal (l : Literal)
  | dot
  | assertion (a : Assertion)
  | shorthand (c : Shorthand) (negated : Bool)
  | property (p : PropertyName) (negated : Bool)

/-- Characters with a meaning of their own. -/
def metaCharacters : List Char :=
  ['\\', '.', '+', '*', '?', '(', ')', '|', '[', ']', '{', '}', '^', '$', '#', '&', '-', '~']

/-- May a character stand for itself after a backslash? -/
def escapable (c : Char) : Bool :=
  metaCharacters.contains c ||
    (c.toNat < 128 && !c.isAlphanum && c != '<' && c != '>')

/-- The words of the assertions that begin like the edge of a word. -/
def edgeWords : List (String × Assertion) :=
  [("start", .wordStart), ("end", .wordEnd), ("start-half", .wordStartHalf),
    ("end-half", .wordEndHalf)]

/-- The edge of a word, or one of its special forms in braces.  Braces that hold no word are left for
a repetition. -/
def edge (verbose : Bool) (cs : List Char) : Option (Assertion × List Char) :=
  match cs with
  | '{' :: r =>
    let letter (c : Char) : Bool := c.isAlpha || c == '-'
    match space verbose r with
    | [] => none
    | c :: r =>
      if letter c then
        match collectUntil verbose (fun c => !letter c) (c :: r) with
        | (w, '}' :: r) => (edgeWords.lookup (String.ofList w)).map fun a => (a, r)
        | _ => none
      else some (.wordEdge, cs)
  | cs => some (.wordEdge, cs)

/-- Letters that stand for a control character. -/
def controlEscapes : List (Char × Nat) :=
  [('a', 7), ('f', 12), ('t', 9), ('n', 10), ('r', 13), ('v', 11)]

/-- Letters that stand for a class of characters. -/
def shorthands : List (Char × Shorthand × Bool) :=
  [('d', .digit, false), ('s', .space, false), ('w', .word, false),
    ('D', .digit, true), ('S', .space, true), ('W', .word, true)]

/-- Characters that stand for an assertion. -/
def assertionEscapes : List (Char × Assertion) :=
  [('A', .textStart), ('z', .textEnd), ('B', .noWordEdge), ('<', .wordStart), ('>', .wordEnd)]

/-- What follows a backslash. -/
def escape (verbose : Bool) : List Char → Option (Primitive × List Char)
  | [] => none
  | c :: r =>
    if c = 'x' then (hex verbose 2 r).map fun (l, r) => (.literal l, r)
    else if c = 'u' then (hex verbose 4 r).map fun (l, r) => (.literal l, r)
    else if c = 'U' then (hex verbose 8 r).map fun (l, r) => (.literal l, r)
    else if c = 'p' then (property verbose r).map fun ((p, neg), r) => (.property p neg, r)
    else if c = 'P' then (property verbose r).map fun ((p, neg), r) => (.property p !neg, r)
    else if c = 'b' then (edge verbose r).map fun (a, r) => (.assertion a, r)
    else if escapable c then some (.literal ⟨c, false⟩, r)
    else
      match shorthands.lookup c, controlEscapes.lookup c, assertionEscapes.lookup c with
      | some (s, neg), _, _ => some (.shorthand s neg, r)
      | _, some n, _ => some (.literal ⟨Char.ofNat n, false⟩, r)
      | _, _, some a => some (.assertion a, r)
      | _, _, _ => none

/-- A character with no meaning in the sequence it stands in, or an escape. -/
def primitive (verbose : Bool) : List Char → Option (Primitive × List Char)
  | [] => none
  | c :: r =>
    if c = '\\' then escape verbose r
    else if c = '.' then some (.dot, r)
    else if c = '^' then some (.assertion .caret, r)
    else if c = '$' then some (.assertion .dollar, r)
    else some (.literal ⟨c, false⟩, r)

def Primitive.pattern : Primitive → Pattern
  | .literal l => .literal l
  | .dot => .dot
  | .assertion a => .assertion a
  | .shorthand c neg => .shorthand c neg
  | .property p neg => .property p neg

/-! ## Classes in brackets -/

/-- The classes of ASCII characters that have a name. -/
def asciiClasses : List (String × List (Nat × Nat)) :=
  [("alnum", [(48, 57), (65, 90), (97, 122)]), ("alpha", [(65, 90), (97, 122)]),
    ("ascii", [(0, 127)]), ("blank", [(9, 9), (32, 32)]), ("cntrl", [(0, 31), (127, 127)]),
    ("digit", [(48, 57)]), ("graph", [(33, 126)]), ("lower", [(97, 122)]),
    ("print", [(32, 126)]), ("punct", [(33, 47), (58, 64), (91, 96), (123, 126)]),
    ("space", [(9, 13), (32, 32)]), ("upper", [(65, 90)]),
    ("word", [(48, 57), (65, 90), (95, 95), (97, 122)]),
    ("xdigit", [(48, 57), (65, 70), (97, 102)])]

/-- A class such as `[:alpha:]` after its opening bracket. -/
def asciiClass? (cs : List Char) : Option (SetItem × List Char) := do
  let r ← match cs with
    | ':' :: r => some r
    | _ => none
  let (negated, r) := match r with
    | '^' :: r => (true, r)
    | r => (false, r)
  let name := r.takeWhile (· ≠ ':')
  match r.drop name.length with
  | ':' :: ']' :: r => do
    let runs ← asciiClasses.lookup (String.ofList name)
    return (.ascii runs negated, r)
  | _ => none

/-- An item of a class that may be an end of a range. -/
def setPrimitive (verbose : Bool) : List Char → Option (Primitive × List Char)
  | [] => none
  | c :: r => if c = '\\' then escape verbose r else some (.literal ⟨c, false⟩, r)

def Primitive.setItem? : Primitive → Option SetItem
  | .literal l => some (.range l l)
  | .shorthand c neg => some (.shorthand c neg)
  | .property p neg => some (.property p neg)
  | .dot => none
  | .assertion _ => none

/-- An item of a class, or a range between two of them. -/
def setRange (verbose : Bool) (cs : List Char) : Option (SetItem × List Char) := do
  let (a, r) ← setPrimitive verbose cs
  match space verbose r with
  | [] => none
  | c :: r =>
    let next := peek verbose r
    if c ≠ '-' ∨ next = some ']' ∨ next = some '-' then
      return (← a.setItem?, c :: r)
    else
      let (b, r) ← setPrimitive verbose (space verbose r)
      match a, b with
      | .literal a, .literal b =>
        if a.char ≤ b.char then some (.range a b, r) else none
      | _, _ => none

/-- The hyphens at the start of a class stand for themselves. -/
def leadingHyphens (verbose : Bool) : Nat → List Char → List SetItem × List Char
  | 0, cs => ([], cs)
  | fuel + 1, cs =>
    match cs with
    | '-' :: r =>
      let (l, r) := leadingHyphens verbose fuel (space verbose r)
      (.range ⟨'-', false⟩ ⟨'-', false⟩ :: l, r)
    | cs => ([], cs)

/-- The start of a class after its opening bracket: whether it is negated, and the items that would
mean something else further on. -/
def openSet (verbose : Bool) (cs : List Char) : Bool × List SetItem × List Char :=
  let (negated, r) := match space verbose cs with
    | '^' :: r => (true, space verbose r)
    | r => (false, r)
  let (hyphens, r) := leadingHyphens verbose (r.length + 1) r
  match hyphens, r with
  | [], ']' :: r => (negated, [.range ⟨']', false⟩ ⟨']', false⟩], space verbose r)
  | l, r => (negated, l, r)

/-- The operation that stands at the start of a text. -/
def setOperation? : List Char → Option (SetOperation × List Char)
  | '&' :: '&' :: r => some (.intersection, r)
  | '-' :: '-' :: r => some (.difference, r)
  | '~' :: '~' :: r => some (.symmetricDifference, r)
  | _ => none

/-- The items read so far, last first, as the right side of the operation before them. -/
def closeOperation (left : Option (SetOperation × SetPattern)) (items : List SetItem) :
    SetPattern :=
  match left with
  | none => .items items.reverse
  | some (op, l) => .operation op l (.items items.reverse)

/-- The rest of a class, up to its closing bracket; the fuel bounds the number of steps. -/
def setBody (verbose : Bool) : Nat → Option (SetOperation × SetPattern) → List SetItem →
    List Char → Option (SetPattern × List Char)
  | 0, _, _, _ => none
  | fuel + 1, left, items, cs =>
    match space verbose cs with
    | [] => none
    | ']' :: r => some (closeOperation left items, r)
    | '[' :: r =>
      match asciiClass? r with
      | some (i, r) => setBody verbose fuel left (i :: items) r
      | none => do
        let (negated, first, r) := openSet verbose r
        let (s, r) ← setBody verbose fuel none first.reverse r
        setBody verbose fuel left (.bracket negated s :: items) r
    | cs =>
      match setOperation? cs with
      | some (op, r) => setBody verbose fuel (some (op, closeOperation left items)) [] r
      | none => do
        let (i, r) ← setRange verbose cs
        setBody verbose fuel left (i :: items) r

/-- A class after its opening bracket. -/
def bracket (verbose : Bool) (cs : List Char) : Option (Pattern × List Char) := do
  let (negated, first, r) := openSet verbose cs
  let (s, r) ← setBody verbose (cs.length + 1) none first.reverse r
  return (.bracket negated s, r)

/-! ## Repetitions -/

/-- A number of 32 bits, with blanks around it. -/
def decimal (verbose : Bool) (cs : List Char) : Option Nat × List Char :=
  let cs := cs.dropWhile isBlank
  let (ds, r) := collect verbose (fun c => !c.isDigit) (cs.length + 1) cs
  let r := r.dropWhile isBlank
  let n := ds.foldl (fun n c => 10 * n + (c.toNat - 48)) 0
  (if ds = [] ∨ UInt32.size ≤ n then none else some n, space verbose r)

/-- The bounds of a repetition after its opening brace, and whether it is greedy. -/
def bounds (verbose : Bool) (cs : List Char) :
    Option ((Nat × Option Nat × Bool) × List Char) :=
  match space verbose cs with
  | [] => none
  | cs =>
    let (low, r) := decimal verbose cs
    let result : Option ((Nat × Option Nat) × List Char) :=
      match r with
      | ',' :: r =>
        match space verbose r with
        | '}' :: r => low.map fun n => ((n, none), '}' :: r)
        | r => do
          let low ← low
          let (high, r) := decimal verbose r
          let high ← high
          if low ≤ high then some ((low, some high), r) else none
      | r => low.map fun n => ((n, some n), r)
    match result with
    | some ((min, max), '}' :: r) =>
      match space verbose r with
      | '?' :: r => some ((min, max, false), r)
      | r => some ((min, max, true), r)
    | _ => none

/-- A repetition of the last item, which is neither missing nor a change of flags. -/
def repeatLast (min : Nat) (max : Option Nat) (greedy : Bool) :
    List Pattern → Option (List Pattern)
  | [] => none
  | .empty :: _ => none
  | .flags _ :: _ => none
  | p :: l => some (.repeat p min max greedy :: l)

/-! ## Groups -/

def flag? (c : Char) : Option Flag :=
  if c = 'i' then some .caseInsensitive
  else if c = 'm' then some .multiLine
  else if c = 's' then some .dotMatchesNewline
  else if c = 'U' then some .swapGreed
  else if c = 'u' then some .unicode
  else if c = 'R' then some .anyLineEnd
  else if c = 'x' then some .verbose
  else none

/-- Flags up to the character after them; each flag and the sign that turns flags off stand at most
once, and a flag follows the sign. -/
def flagList (acc : FlagList) (off dangling : Bool) : List Char → Option (FlagList × List Char)
  | [] => none
  | c :: r =>
    if c = ':' ∨ c = ')' then if dangling then none else some (acc, c :: r)
    else if c = '-' then if off then none else flagList acc true true r
    else do
      let f ← flag? c
      if (acc.get? f).isSome then none else flagList (acc ++ [(f, !off)]) off false r

/-- The characters that a group's name may hold. -/
def nameChar (first : Bool) (c : Char) : Bool :=
  c == '_' || isAlphabetic c ||
    (!first && (c == '.' || c == '[' || c == ']' || isAlphanumeric c))

/-- A group's name up to the bracket that closes it. -/
def groupName? (cs : List Char) : Option (String × List Char) :=
  let name := cs.takeWhile (· ≠ '>')
  match name, cs.drop name.length with
  | c :: l, _ :: r =>
    if nameChar true c && l.all (nameChar false) then some (String.ofList (c :: l), r) else none
  | _, _ => none

/-- How a group begins. -/
inductive GroupHead
  | capture (name : Option String)
  | flagged (l : FlagList)
  /-- no group, but flags for what follows -/
  | directive (l : FlagList)

/-- What stands between the opening bracket of a group and its pattern. -/
def groupHead (verbose : Bool) (cs : List Char) : Option (GroupHead × List Char) :=
  match space verbose cs with
  | '?' :: '=' :: _ => none
  | '?' :: '!' :: _ => none
  | '?' :: '<' :: '=' :: _ => none
  | '?' :: '<' :: '!' :: _ => none
  | '?' :: 'P' :: '<' :: r => (groupName? r).map fun (n, r) => (.capture (some n), r)
  | '?' :: '<' :: r => (groupName? r).map fun (n, r) => (.capture (some n), r)
  | '?' :: r =>
    match flagList [] false false r with
    | some (l, ':' :: r) => some (.flagged l, r)
    | some (l, ')' :: r) => if l = [] then none else some (.directive l, r)
    | _ => none
  | r => some (.capture none, r)

/-! ## Patterns -/

/-- Where the reader of patterns stands: verbose mode, the names of the groups so far, and the rest
of the text. -/
structure Cursor where
  verbose : Bool
  names : List String
  rest : List Char

/-- A choice of sequences up to the bracket that closes their group or the end of the text.
`choices` and `items` hold what has been read, last first; the fuel bounds the number of steps. -/
def choice : Nat → List Pattern → List Pattern → Cursor → Option (Pattern × Cursor)
  | 0, _, _, _ => none
  | fuel + 1, choices, items, s =>
    let done (rest : List Char) : Option (Pattern × Cursor) :=
      some (.ofChoices (.ofItems items.reverse :: choices).reverse, { s with rest })
    let go (items : List Pattern) (rest : List Char) : Option (Pattern × Cursor) :=
      choice fuel choices items { s with rest }
    match space s.verbose s.rest with
    | [] => done []
    | c :: r =>
      if c = ')' then done (c :: r)
      else if c = '|' then
        choice fuel (.ofItems items.reverse :: choices) [] { s with rest := r }
      else if c = '[' then do
        let (p, r) ← bracket s.verbose r
        go (p :: items) r
      else if c = '?' ∨ c = '*' ∨ c = '+' then do
        let max := if c = '?' then some 1 else none
        let (greedy, r) := match r with
          | '?' :: r => (false, r)
          | r => (true, r)
        go (← repeatLast (if c = '+' then 1 else 0) max greedy items) r
      else if c = '{' then do
        let ((min, max, greedy), r) ← bounds s.verbose r
        go (← repeatLast min max greedy items) r
      else if c = '(' then
        match groupHead s.verbose r with
        | none => none
        | some (.directive l, r) =>
          choice fuel choices (.flags l :: items)
            { s with verbose := (l.get? .verbose).getD s.verbose, rest := r }
        | some (head, r) => do
          let (numbered, l) := match head with
            | .flagged l => (false, l)
            | _ => (true, [])
          let names ← match head with
            | .capture (some n) => if n ∈ s.names then none else some (n :: s.names)
            | _ => some s.names
          let inner : Cursor := ⟨(l.get? .verbose).getD s.verbose, names, r⟩
          match ← choice fuel [] [] inner with
          | (p, ⟨_, names, ')' :: r⟩) =>
            choice fuel choices (.group numbered l p :: items) ⟨s.verbose, names, r⟩
          | _ => none
      else do
        let (p, r) ← primitive s.verbose (c :: r)
        go (p.pattern :: items) r

/-- The pattern of a whole text. -/
def Pattern.read? (cs : List Char) : Option Pattern := do
  let (p, s) ← choice (cs.length + 1) [] [] ⟨false, [], cs⟩
  if s.rest = [] ∧ p.depth ≤ depthLimit then some p else none

end BudgetRules.Regex
