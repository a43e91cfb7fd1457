import BudgetRules.Json.Numeral

/-!
# What a JSON text says, up to its first fault

`Tree.read` turns any text into a tree.  Where the text is broken, the tree says so in the place
where the fault stands, and ends there; a number too large for a double or a string with half a
surrogate pair is a fault of that number or string alone.  A decoder walks the tree from left to
right, so the first thing that is wrong, in the text or for the decoder, is what it reports.
-/

namespace BudgetRules.Json

/-- How a list or an object ends. -/
inductive Stop
  | closed
  /-- the text ends where a comma or the closing bracket should stand -/
  | unfinished
  /-- the closing bracket follows a comma -/
  | trailingComma
  /-- the text ends after a comma -/
  | endAfterComma
  /-- something else stands where a comma or the closing bracket should stand -/
  | noComma
deriving DecidableEq

mutual

/-- A value of a text. -/
inductive Tree
  | null
  | bool (b : Bool)
  | num (n : Except Fault Number)
  | str (s : Except Fault String)
  | list (items : Items)
  | object (members : Members)
  /-- the text ends where a value should begin -/
  | absent
  /-- the colon that leads to the value is missing -/
  | unreached (f : Fault)
  /-- a string that is not finished properly -/
  | brokenString (b : Break)
  | broken (b : Break)

/-- The rest of a list. -/
inductive Items
  | stop (s : Stop)
  | item (t : Tree) (rest : Items)

/-- The rest of an object. -/
inductive Members
  | stop (s : Stop)
  /-- the name of a member is no string -/
  | strayKey (t : Tree)
  | brokenKey (b : Break)
  | member (key : Except Fault String) (value : Tree) (rest : Members)

end

/-! ## Strings -/

/-- A part of a string: a character, or a sixteen-bit unit written in hexadecimal. -/
inductive Piece
  | plain (c : Char)
  | unit (n : Nat)

/-- How a string ends. -/
inductive StringEnd
  | closed
  | eof
  | control
  /-- a backslash before a character that no escape begins with -/
  | unknownEscape
  /-- a `\u` without four hexadecimal digits -/
  | badHex
deriving DecidableEq

def hexValue? (c : Char) : Option Nat :=
  if c.isDigit then some (c.toNat - 48)
  else if 'a' ≤ c ∧ c ≤ 'f' then some (c.toNat - 87)
  else if 'A' ≤ c ∧ c ≤ 'F' then some (c.toNat - 55)
  else none

/-- The bytes that a text takes. -/
def byteLength (cs : List Char) : Nat := (String.ofList cs).utf8ByteSize

/-- The unit after `\u`.  Four bytes are looked at, so a text with fewer left is unfinished. -/
def hexUnit (cs : List Char) : Except StringEnd (Nat × List Char) :=
  match cs with
  | a :: b :: c :: d :: r =>
    match hexValue? a, hexValue? b, hexValue? c, hexValue? d with
    | some a, some b, some c, some d => .ok (4096 * a + 256 * b + 16 * c + d, r)
    | _, _, _, _ => .error .badHex
  | cs => .error (if 4 ≤ byteLength cs then .badHex else .eof)

/-- The part that a backslash begins. -/
def escape : List Char → Except StringEnd (Piece × List Char)
  | [] => .error .eof
  | 'u' :: r => (hexUnit r).map fun (n, r) => (.unit n, r)
  | '"' :: r => .ok (.plain '"', r)
  | '\\' :: r => .ok (.plain '\\', r)
  | '/' :: r => .ok (.plain '/', r)
  | 'b' :: r => .ok (.plain (Char.ofNat 8), r)
  | 'f' :: r => .ok (.plain (Char.ofNat 12), r)
  | 'n' :: r => .ok (.plain '\n', r)
  | 'r' :: r => .ok (.plain '\r', r)
  | 't' :: r => .ok (.plain '\t', r)
  | _ :: _ => .error .unknownEscape

/-- The parts of a string after its opening quote, and what follows it.  The fuel bounds the number
of parts; `acc` holds those found, last first. -/
def pieces : Nat → List Piece → List Char → List Piece × StringEnd × List Char
  | 0, acc, cs => (acc.reverse, .eof, cs)
  | _ + 1, acc, [] => (acc.reverse, .eof, [])
  | fuel + 1, acc, c :: cs =>
    if c = '"' then (acc.reverse, .closed, cs)
    else if c = '\\' then
      match escape cs with
      | .ok (p, r) => pieces fuel (p :: acc) r
      | .error e => (acc.reverse, e, [])
    else if c.toNat < 32 then (acc.reverse, .control, cs)
    else pieces fuel (.plain c :: acc) cs

/-- The fault at the end of a string. -/
def StringEnd.fault? : StringEnd → Option Fault
  | .closed => none
  | .eof => some .eofInString
  | .control => some .controlCharacter
  | .unknownEscape => some .invalidEscape
  | .badHex => some .invalidEscape

/-- The characters of a string's parts.  A unit of the high half of a surrogate pair needs one of the
low half behind it; `acc` holds the characters found, last first. -/
def join (stop : StringEnd) (acc : List Char) : List Piece → Except Fault (List Char)
  | [] =>
    match stop.fault? with
    | some f => .error f
    | none => .ok acc.reverse
  | .plain c :: r => join stop (c :: acc) r
  | .unit n :: r =>
    if 0xdc00 ≤ n ∧ n ≤ 0xdfff then .error .loneSurrogate
    else if n < 0xd800 ∨ 0xdbff < n then join stop (Char.ofNat n :: acc) r
    else
      match r with
      | .unit m :: r =>
        if 0xdc00 ≤ m ∧ m ≤ 0xdfff then
          join stop (Char.ofNat (0x10000 + (n - 0xd800) * 0x400 + (m - 0xdc00)) :: acc) r
        else .error .loneSurrogate
      | .plain _ :: _ => .error .endOfHexEscape
      | [] =>
        match stop with
        | .eof => .error .eofInString
        | .badHex => .error .invalidEscape
        | _ => .error .endOfHexEscape

/-- A string after its opening quote: its text, or where it breaks off. -/
def string (cs : List Char) : Except Break (Except Fault String × List Char) :=
  let (ps, stop, r) := pieces (cs.length + 1) [] cs
  let text := (join stop [] ps).map String.ofList
  match stop.fault?, text with
  | none, text => .ok (text, r)
  | some f, .error g => .error ⟨g, f⟩
  | some f, .ok _ => .error (.both f)

/-! ## Values -/

def isSpace (c : Char) : Bool := c = ' ' ∨ c = '\n' ∨ c = '\t' ∨ c = '\r'

def skipSpace (cs : List Char) : List Char := cs.dropWhile isSpace

/-- The rest of a word whose first letter has been seen. -/
def ident : List Char → List Char → Except Fault (List Char)
  | [], cs => .ok cs
  | _ :: _, [] => .error .eofInValue
  | w :: ws, c :: cs => if w = c then ident ws cs else .error .expectedIdent

/-- A word, or what is wrong with it. -/
def word (t : Tree) (rest : List Char) (cs : List Char) : Tree × Option (List Char) :=
  match ident rest cs with
  | .ok r => (t, some r)
  | .error f => (.broken (.both f), none)

/-- A number, or what is wrong with it. -/
def number (negative : Bool) (cs : List Char) : Tree × Option (List Char) :=
  match Numeral.scan negative cs with
  | .ok (n, r) => (.num n.value, some r)
  | .error b => (.broken b, none)

mutual

/-- The first value of a text and the text behind it, or none if the value breaks off.  The fuel
bounds the number of steps. -/
def Tree.read : Nat → List Char → Tree × Option (List Char)
  | 0, _ => (.absent, none)
  | fuel + 1, cs =>
    match skipSpace cs with
    | [] => (.absent, none)
    | 'n' :: r => word .null ['u', 'l', 'l'] r
    | 't' :: r => word (.bool true) ['r', 'u', 'e'] r
    | 'f' :: r => word (.bool false) ['a', 'l', 's', 'e'] r
    | '"' :: r =>
      match string r with
      | .ok (s, r) => (.str s, some r)
      | .error b => (.brokenString b, none)
    | '[' :: r =>
      let (items, r) := Items.read fuel true r
      (.list items, r)
    | '{' :: r =>
      let (members, r) := Members.read fuel true r
      (.object members, r)
    | '-' :: r => number true r
    | c :: r => if c.isDigit then number false (c :: r) else (.broken (.both .expectedValue), none)

/-- The rest of a list; `first` says that nothing of it has been read. -/
def Items.read : Nat → Bool → List Char → Items × Option (List Char)
  | 0, _, _ => (.stop .unfinished, none)
  | fuel + 1, first, cs =>
    let next (cs : List Char) : Items × Option (List Char) :=
      match Tree.read fuel cs with
      | (t, none) => (.item t (.stop .unfinished), none)
      | (t, some r) =>
        let (rest, r) := Items.read fuel false r
        (.item t rest, r)
    match skipSpace cs with
    | [] => (.stop .unfinished, none)
    | ']' :: r => (.stop .closed, some r)
    | c :: r =>
      if first then next (c :: r)
      else if c = ',' then
        match skipSpace r with
        | [] => (.stop .endAfterComma, none)
        | ']' :: _ => (.stop .trailingComma, none)
        | r => next r
      else (.stop .noComma, none)

/-- The rest of an object; `first` says that nothing of it has been read. -/
def Members.read : Nat → Bool → List Char → Members × Option (List Char)
  | 0, _, _ => (.stop .unfinished, none)
  | fuel + 1, first, cs =>
    let next (cs : List Char) : Members × Option (List Char) :=
      match cs with
      | '"' :: r =>
        match string r with
        | .error b => (.brokenKey b, none)
        | .ok (key, r) =>
          match skipSpace r with
          | ':' :: r =>
            match Tree.read fuel r with
            | (t, none) => (.member key t (.stop .unfinished), none)
            | (t, some r) =>
              let (rest, r) := Members.read fuel false r
              (.member key t rest, r)
          | [] => (.member key (.unreached .eofInObject) (.stop .unfinished), none)
          | _ => (.member key (.unreached .expectedColon) (.stop .unfinished), none)
      | cs => (.strayKey (Tree.read fuel cs).1, none)
    match skipSpace cs with
    | [] => (.stop .unfinished, none)
    | '}' :: r => (.stop .closed, some r)
    | c :: r =>
      if first then next (c :: r)
      else if c = ',' then
        match skipSpace r with
        | [] => (.stop .endAfterComma, none)
        | '}' :: _ => (.stop .trailingComma, none)
        | r => next r
      else (.stop .noComma, none)

end

/-- The tree of a whole text, and whether something other than blanks follows its value.  Each
character is met by at most two steps. -/
def Tree.ofText (cs : List Char) : Tree × Bool :=
  match Tree.read (2 * cs.length + 4) cs with
  | (t, none) => (t, false)
  | (t, some r) => (t, !(skipSpace r).isEmpty)

end BudgetRules.Json
